import Mathlib
import NntpBench.Server.BatchReaders

namespace NntpBench.Server

open Protocol Terminator BufferedResponseReceiver

variable {reader : BufReader} {depth : Nat} {left right line tail : Bytes} {lines : List Bytes}

namespace BufReader

theorem pending_consume_suffix (self : BufReader) (count : Nat) :
    (self.consume count).pending <:+ self.pending := by
  obtain ⟨before, hbefore⟩ := List.drop_suffix count self.buffer
  refine ⟨before, ?_⟩
  rw [consume, pending, pending, ← List.append_assoc, hbefore]

theorem length_pending_lineTake (self : BufReader) (h : self.buffer ≠ []) :
    (self.consume (lineTake self.buffer)).pending.length < self.pending.length := by
  obtain ⟨hpos, hle⟩ := lineTake_spec h
  have hlength := self.length_pending_consume hle
  omega

end BufReader

theorem readCrlfLineInto_pending (reader : BufReader) (line : Bytes) :
    (readCrlfLineInto reader line).2.pending <:+ reader.pending ∧
      ∀ result, (readCrlfLineInto reader line).1 = .ok (some result) →
        (readCrlfLineInto reader line).2.pending.length < reader.pending.length := by
  fun_induction readCrlfLineInto reader line with
  | case1 reader line error filled hfill =>
    rw [← BufReader.pending_of_fillBuf hfill]
    exact ⟨List.suffix_rfl, by simp⟩
  | case2 reader _ filled hfill =>
    rw [← BufReader.pending_of_fillBuf hfill]
    exact ⟨List.suffix_rfl, by simp⟩
  | case3 reader line _ filled hfill =>
    rw [← BufReader.pending_of_fillBuf hfill]
    exact ⟨List.suffix_rfl, by simp⟩
  | case4 reader line _ filled hfill hne =>
    rw [← BufReader.pending_of_fillBuf hfill]
    exact ⟨filled.pending_consume_suffix _, fun _ _ => filled.length_pending_lineTake hne⟩
  | case5 reader line _ filled hfill hne =>
    rw [← BufReader.pending_of_fillBuf hfill]
    exact ⟨filled.pending_consume_suffix _, fun _ _ => filled.length_pending_lineTake hne⟩
  | case6 reader line _ filled hfill hne =>
    rename_i ih
    have hsuffix := filled.pending_consume_suffix (lineTake filled.buffer)
    rw [← BufReader.pending_of_fillBuf hfill]
    exact ⟨ih.1.trans hsuffix, fun result hresult => (ih.2 result hresult).trans_le
      hsuffix.length_le⟩

theorem readDotTerminatedBody_pending (reader : BufReader) (state : TakeThisBodyState) :
    (readDotTerminatedBody reader state).2.pending <:+ reader.pending := by
  fun_induction readDotTerminatedBody reader state with
  | case1 reader state error filled hfill =>
    rw [← BufReader.pending_of_fillBuf hfill]
  | case2 reader state _ filled hfill =>
    rw [← BufReader.pending_of_fillBuf hfill]
  | case3 reader state _ filled hfill =>
    rw [← BufReader.pending_of_fillBuf hfill]
    exact filled.pending_consume_suffix _
  | case4 reader state _ filled hfill =>
    rw [← BufReader.pending_of_fillBuf hfill]
    exact filled.pending_consume_suffix _
  | case5 reader state _ filled hfill =>
    rename_i ih
    rw [← BufReader.pending_of_fillBuf hfill]
    exact ih.trans (filled.pending_consume_suffix _)

theorem pushCommand_pending (reader : BufReader) (line : Bytes) (batch : Batch) :
    (pushCommand reader line batch).2.1.pending <:+ reader.pending := by
  have hbody := readDotTerminatedBody_pending reader .lineStart
  unfold pushCommand
  dsimp only
  split_ifs
  · generalize readDotTerminatedBody reader .lineStart = result at hbody ⊢
    obtain ⟨result, after⟩ := result
    cases result <;> exact hbody
  · exact List.suffix_rfl

theorem readBufferedCommands_pending (slots : Nat) (reader : BufReader) (batch : Batch) :
    (readBufferedCommands slots reader batch).2.1.pending <:+ reader.pending := by
  induction slots generalizing reader batch with
  | zero => exact List.suffix_rfl
  | succ slots ih =>
    rw [readBufferedCommands]
    unfold readBufferedCrlfLineInto
    cases findCrlfLineEnd reader.buffer 0 with
    | none => exact List.suffix_rfl
    | some take =>
      dsimp only [Option.map_some]
      have hpush := pushCommand_pending (reader.consume take)
        (if take > MAX_COMMAND_LINE_BYTES then TOO_LONG_LINE else reader.buffer.take take) batch
      generalize pushCommand _ _ batch = pushed at hpush ⊢
      obtain ⟨result, after, batch⟩ := pushed
      have hafter := hpush.trans (reader.pending_consume_suffix take)
      cases result with
      | error error => exact hafter
      | ok _ => exact (ih after batch).trans hafter

theorem readCommandBatch_pending {after : BufReader} {batch : Batch}
    (h : readCommandBatch reader depth = (.ok true, after, batch)) :
    after.pending.length < reader.pending.length := by
  obtain ⟨-, hline⟩ := readCrlfLineInto_pending reader []
  unfold readCommandBatch at h
  generalize readCrlfLineInto reader [] = read at h hline
  obtain ⟨result, next⟩ := read
  match result with
  | .error error => simp at h
  | .ok none => simp at h
  | .ok (some line) =>
    replace hline := hline line rfl
    have hpush := pushCommand_pending next line ⟨[], []⟩
    dsimp only at h hline
    generalize pushCommand next line ⟨[], []⟩ = pushed at h hpush
    obtain ⟨result, pushedReader, pushedBatch⟩ := pushed
    cases result with
    | error error => simp at h
    | ok _ =>
      have hbuffered := readBufferedCommands_pending (depth - 1) pushedReader pushedBatch
      dsimp only at h
      generalize readBufferedCommands (depth - 1) pushedReader pushedBatch = loop at h hbuffered
      obtain ⟨result, last, lastBatch⟩ := loop
      cases result with
      | error error => simp at h
      | ok _ =>
        cases h
        have hle := (hbuffered.trans hpush).length_le
        dsimp only at hle
        omega

/-- The lines that `read_command_batch`, called until it stops or fails, hands to
`parse_command_line`. -/
def commandLines (depth : Nat) (reader : BufReader) : List Bytes :=
  match _hbatch : readCommandBatch reader depth with
  | (.ok true, after, batch) => batch.lines ++ commandLines depth after
  | (.ok false, _, batch) => batch.lines
  | (.error _, _, batch) => batch.lines
termination_by reader.pending.length
decreasing_by exact readCommandBatch_pending _hbatch

theorem lineTake_append_of_mem (h : LF ∈ left) :
    lineTake (left ++ right) = lineTake left := by
  unfold lineTake
  cases hmem : memchr LF left with
  | none => exact absurd h (memchr_eq_none_iff.mp hmem)
  | some index =>
    obtain ⟨before, after, rfl, rfl, hnot⟩ := memchr_eq_some_iff.mp hmem
    rw [List.append_assoc, List.cons_append, memchr_append_cons hnot]
    rfl

theorem lineTake_of_notMem {bytes : Bytes} (h : LF ∉ bytes) : lineTake bytes = bytes.length := by
  rw [lineTake, memchr_eq_none_iff.mpr h]
  rfl

theorem lineTake_line {before : Bytes} (h : LF ∉ before) (after : Bytes) :
    lineTake (before ++ LF :: after) = before.length + 1 := by
  rw [lineTake, memchr_append_cons h]
  rfl

theorem lineTake_append_of_notMem (h : LF ∉ left) :
    lineTake (left ++ right) = left.length + lineTake right := by
  by_cases hright : LF ∈ right
  · cases hmem : memchr LF right with
    | none => exact absurd hright (memchr_eq_none_iff.mp hmem)
    | some index =>
      obtain ⟨before, after, rfl, -, hnot⟩ := memchr_eq_some_iff.mp hmem
      have hboth : LF ∉ left ++ before := by simp [h, hnot]
      rw [← List.append_assoc, lineTake_line hboth, lineTake_line hnot, List.length_append,
        Nat.add_assoc]
  · rw [lineTake_of_notMem hright, lineTake_of_notMem (by simp [h, hright]), List.length_append]

/-- What `read_crlf_line_into` must return when it holds `line` and `data` is ahead: a line that is
too long is given up somewhere behind the limit, and at its LF at the latest. -/
def LineRead (line data : Bytes) (result : Except CommandReadError (Option Bytes) × BufReader) :
    Prop :=
  if MAX_COMMAND_LINE_BYTES < line.length + lineTake data then
    result.1 = .ok (some TOO_LONG_LINE) ∧ result.2.Live ∧
      result.2.buffer.length < SERVER_READER_CAPACITY ∧
      ∃ count, count ≤ lineTake data ∧ MAX_COMMAND_LINE_BYTES < line.length + count ∧
        result.2.pending = data.drop count
  else if LF ∈ data then
    result.1 = .ok (some (line ++ data.take (lineTake data))) ∧ result.2.Live ∧
      result.2.buffer.length < SERVER_READER_CAPACITY ∧
      result.2.pending = data.drop (lineTake data)
  else result.1 = if line = [] ∧ data = [] then .ok none else .error .truncatedLine

theorem LineRead.of_append {chunk data : Bytes}
    {result : Except CommandReadError (Option Bytes) × BufReader} (hne : chunk ≠ [])
    (hchunk : LF ∉ chunk) (h : LineRead (line ++ chunk) data result) :
    LineRead line (chunk ++ data) result := by
  unfold LineRead at h ⊢
  rw [lineTake_append_of_notMem hchunk]
  rw [List.length_append, Nat.add_assoc] at h
  have hmem : LF ∈ chunk ++ data ↔ LF ∈ data := by simp [hchunk]
  by_cases hlong : MAX_COMMAND_LINE_BYTES < line.length + (chunk.length + lineTake data)
  · rw [if_pos hlong] at h ⊢
    obtain ⟨hresult, hlive, hspace, count, hcount, hbehind, hrest⟩ := h
    refine ⟨hresult, hlive, hspace, chunk.length + count, by omega, by omega, ?_⟩
    rw [hrest, ← List.drop_drop, List.drop_left]
  · rw [if_neg hlong] at h ⊢
    by_cases hlf : LF ∈ data
    · rw [if_pos hlf] at h
      rw [if_pos (hmem.mpr hlf), List.take_length_add_append, ← List.drop_drop, List.drop_left,
        ← List.append_assoc]
      exact h
    · rw [if_neg hlf] at h
      rw [if_neg (fun hahead => hlf (hmem.mp hahead)), h]
      simp [hne]

theorem readCrlfLineInto_of_fill {filled : BufReader} (hfill : reader.fillBuf = (.ok (), filled))
    (hne : filled.buffer ≠ []) (line : Bytes) :
    readCrlfLineInto reader line =
      if line.length + lineTake filled.buffer > MAX_COMMAND_LINE_BYTES then
        (.ok (some TOO_LONG_LINE), filled.consume (lineTake filled.buffer))
      else if [LF] <:+ line ++ filled.buffer.take (lineTake filled.buffer) then
        (.ok (some (line ++ filled.buffer.take (lineTake filled.buffer))),
          filled.consume (lineTake filled.buffer))
      else readCrlfLineInto (filled.consume (lineTake filled.buffer))
        (line ++ filled.buffer.take (lineTake filled.buffer)) := by
  rw [readCrlfLineInto]
  split
  · next heq =>
    rw [hfill] at heq
    cases heq
  · next heq =>
    rw [hfill] at heq
    cases heq
    rw [dif_neg hne]

theorem readCrlfLineInto_of_end {filled : BufReader} (hfill : reader.fillBuf = (.ok (), filled))
    (hnil : filled.buffer = []) (line : Bytes) :
    readCrlfLineInto reader line =
      if line = [] then (.ok none, filled) else (.error .truncatedLine, filled) := by
  rw [readCrlfLineInto]
  split
  · next heq =>
    rw [hfill] at heq
    cases heq
  · next heq =>
    rw [hfill] at heq
    cases heq
    rw [dif_pos hnil]

theorem take_lineTake_of_mem {bytes : Bytes} (h : LF ∈ bytes) :
    ∃ before, LF ∉ before ∧ bytes.take (lineTake bytes) = before ++ [LF] := by
  cases hmem : memchr LF bytes with
  | none => exact absurd h (memchr_eq_none_iff.mp hmem)
  | some index =>
    obtain ⟨before, after, rfl, -, hnot⟩ := memchr_eq_some_iff.mp hmem
    refine ⟨before, hnot, ?_⟩
    rw [lineTake_line hnot, List.take_length_add_append]
    rfl

theorem readCrlfLineInto_spec (h : reader.Live) (hline : line.length ≤ MAX_COMMAND_LINE_BYTES) :
    LineRead line reader.pending (readCrlfLineInto reader line) := by
  -- A round without LF moves all of the buffer to the line and leaves fewer pending bytes.
  induction hn : reader.pending.length using Nat.strong_induction_on generalizing reader line with
  | _ n ih =>
    obtain ⟨filled, hfill, hlive, hpending, hend⟩ := h.fillBuf
    rw [← hpending] at hn ⊢
    by_cases hnil : filled.buffer = []
    · rw [readCrlfLineInto_of_end hfill hnil, hend hnil, LineRead, lineTake_of_notMem (by simp),
        List.length_nil, if_neg (by omega), if_neg (by simp)]
      by_cases hempty : line = [] <;> simp [hempty]
    rw [readCrlfLineInto_of_fill hfill hnil]
    obtain ⟨hpos, hle⟩ := lineTake_spec hnil
    have hbuffer := hlive.buffer_le
    have hafter := hlive.consume (lineTake filled.buffer)
    have hspace : (filled.consume (lineTake filled.buffer)).buffer.length <
        SERVER_READER_CAPACITY := by
      simp only [BufReader.consume, List.length_drop]
      omega
    have hrest := filled.pending_consume hle
    by_cases hmem : LF ∈ filled.buffer
    · have htake : lineTake filled.pending = lineTake filled.buffer := lineTake_append_of_mem hmem
      unfold LineRead
      rw [htake]
      by_cases hlong : MAX_COMMAND_LINE_BYTES < line.length + lineTake filled.buffer
      · rw [if_pos hlong, if_pos hlong]
        exact ⟨rfl, hafter, hspace, _, le_rfl, hlong, hrest⟩
      · obtain ⟨before, -, hbefore⟩ := take_lineTake_of_mem hmem
        have hsuffix : [LF] <:+ line ++ filled.buffer.take (lineTake filled.buffer) := by
          rw [hbefore, ← List.append_assoc]
          exact List.suffix_append _ _
        have hwhole : filled.pending.take (lineTake filled.buffer) =
            filled.buffer.take (lineTake filled.buffer) := List.take_append_of_le_length hle
        have hahead : LF ∈ filled.pending := List.mem_append_left _ hmem
        rw [if_neg hlong, if_pos hahead, if_neg hlong, if_pos hsuffix, hwhole]
        exact ⟨rfl, hafter, hspace, hrest⟩
    · have hall : lineTake filled.buffer = filled.buffer.length := lineTake_of_notMem hmem
      have htake : lineTake filled.pending = filled.buffer.length +
        lineTake (unread filled.socket) :=
        lineTake_append_of_notMem hmem
      rw [hall] at hafter hspace hrest ⊢
      by_cases hlong : MAX_COMMAND_LINE_BYTES < line.length + filled.buffer.length
      · rw [if_pos hlong, LineRead, htake, if_pos (by omega)]
        exact ⟨rfl, hafter, hspace, _, by omega, hlong, hrest⟩
      · have hopen : ¬ [LF] <:+ line ++ filled.buffer := by
          intro hsuffix
          have hlast :=
            List.suffix_of_suffix_length_le hsuffix (List.suffix_append line filled.buffer)
            (List.length_pos_of_ne_nil hnil)
          exact hmem (hlast.subset List.mem_cons_self)
        rw [if_neg hlong, List.take_length, if_neg hopen]
        have hlength : (line ++ filled.buffer).length ≤ MAX_COMMAND_LINE_BYTES := by
          rw [List.length_append]
          omega
        have hunread : (filled.consume filled.buffer.length).pending = unread filled.socket := by
          rw [hrest, BufReader.pending, List.drop_left]
        have hless : (filled.consume filled.buffer.length).pending.length < n := by
          have hbytes := List.length_pos_of_ne_nil hnil
          rw [hunread, ← hn, BufReader.pending, List.length_append]
          omega
        have hnext := ih _ hless hafter hlength rfl
        rw [hunread] at hnext
        exact hnext.of_append hnil hmem

theorem lineTake_of_cut {stream : Bytes}
    (h : LfCut stream (line :: lines) tail) : lineTake stream = line.length := by
  obtain ⟨before, hline, hbefore⟩ := h.ends line List.mem_cons_self
  rw [h.stream_eq, hline, List.flatten_cons, List.append_assoc, List.append_assoc,
    List.singleton_append, lineTake_line hbefore, List.length_append, List.length_singleton]

/-- Two neighbouring lines that a search for CRLF does not take as one: the first ends in CRLF, or
the second does not, or the buffer cannot hold both behind another line. -/
def Apart (left right : Bytes) : Prop :=
  CRLF <:+ left ∨ ¬ CRLF <:+ right ∨ SERVER_READER_CAPACITY ≤ left.length + right.length

instance (left right : Bytes) : Decidable (Apart left right) := by
  unfold Apart
  infer_instance

theorem not_apart {content front : Bytes} (hsplit : content ++ CRLF = front ++ (left ++ right))
    (hleft : [LF] <:+ left) (hright : [LF] <:+ right)
    (hleast : ∀ index < content.length, ¬ CRLF <+: content.drop index ++ CRLF)
    (hspace : (content ++ CRLF).length < SERVER_READER_CAPACITY) : ¬ Apart left right := by
  -- Where the first CRLF of some bytes ends a second line, the two lines run into each other.
  have hlength := congrArg List.length hsplit
  have hlast := hright.length_le
  simp only [List.length_append, length_crlf, List.length_singleton] at hlength hlast hspace
  rintro (hcrlf | hopen | hwide)
  · -- The CRLF that ends the first of them stands further in front.
    obtain ⟨start, rfl⟩ := hcrlf
    simp only [List.length_append, length_crlf] at hlength
    apply hleast (front ++ start).length (by rw [List.length_append]; omega)
    rw [← List.drop_append_of_le_length (by rw [List.length_append]; omega), hsplit,
      List.append_assoc start, ← List.append_assoc, List.drop_left]
    exact List.prefix_append _ _
  · obtain ⟨start, rfl⟩ := hright
    rcases List.eq_nil_or_concat start with rfl | ⟨init, last, rfl⟩
    · -- A line that is only LF follows an LF, not a CR.
      obtain ⟨init, rfl⟩ := hleft
      have hcr : content ++ [CR] ++ [LF] = front ++ (init ++ [LF]) ++ [LF] := by
        simpa [crlf_eq] using hsplit
      have hlf : content ++ [CR] = front ++ init ++ [LF] := by
        simpa using (List.append_inj' hcr rfl).1
      exact absurd (List.append_inj' hlf rfl).2 (by decide)
    · apply hopen
      apply List.suffix_of_suffix_length_le (List.suffix_append content CRLF)
      · rw [hsplit, ← List.append_assoc]
        exact List.suffix_append _ _
      · simp [length_crlf]
  · omega

theorem findCrlfLineEnd_split {buffer : Bytes} {take : Nat}
    (hfind : findCrlfLineEnd buffer 0 = some take) :
    ∃ content behind, buffer = content ++ CRLF ++ behind ∧ take = (content ++ CRLF).length ∧
      ∀ index < content.length, ¬ CRLF <+: content.drop index ++ CRLF := by
  rw [findCrlfLineEnd, getFrom_zero, Option.bind_some, Option.map_eq_some_iff] at hfind
  obtain ⟨index, hindex, rfl⟩ := hfind
  have hle := ListSearch.findSub_end_le hindex
  obtain ⟨-, ⟨behind, hbehind⟩, hleast⟩ := ListSearch.findSub_eq_some_iff.mp hindex
  have hlength : (buffer.take index).length = index := by
    rw [List.length_take]
    omega
  have hbuffer : buffer = buffer.take index ++ CRLF ++ behind := by
    rw [List.append_assoc, hbehind, List.take_append_drop]
  refine ⟨buffer.take index, behind, hbuffer, ?_, ?_⟩
  · rw [List.length_append, hlength, Nat.zero_add]
  · intro start hstart hcrlf
    apply hleast start (by omega)
    rw [hbuffer, List.append_assoc, List.drop_append_of_le_length (by omega), ← List.append_assoc]
    exact hcrlf.trans (List.prefix_append _ _)

theorem findCrlfLineEnd_eq_some {buffer back : Bytes} {take : Nat}
    (hcut : LfCut (buffer ++ back) lines tail) (hapart : lines.IsChain Apart)
    (hspace : buffer.length < SERVER_READER_CAPACITY)
    (hfind : findCrlfLineEnd buffer 0 = some take) :
    ∃ line rest, lines = line :: rest ∧ take = line.length ∧ take ≤ buffer.length ∧
      buffer.take take = line := by
  obtain ⟨content, behind, rfl, rfl, hleast⟩ := findCrlfLineEnd_split hfind
  rw [List.append_assoc] at hcut
  have hlf : [LF] <:+ content ++ CRLF := ⟨content ++ [CR], by simp [crlf_eq]⟩
  have hle : (content ++ CRLF).length ≤ (content ++ CRLF ++ behind).length := by simp
  obtain ⟨before, after, rfl, hbefore, -⟩ := hcut.split_of_lf (Or.inr hlf)
  rcases List.eq_nil_or_concat before with rfl | ⟨init, right, rfl⟩
  · simp [crlf_eq] at hbefore
  rcases List.eq_nil_or_concat init with rfl | ⟨init, left, rfl⟩
  · have hline : content ++ CRLF = right := by simpa using hbefore
    exact ⟨right, after, rfl, by rw [hline], hle, by rw [List.take_left, hline]⟩
  · exfalso
    have hsplit : content ++ CRLF = init.flatten ++ (left ++ right) := by
      simpa using hbefore
    have hlines : (init.concat left).concat right ++ after = init ++ left :: right :: after := by
      simp
    rw [hlines] at hcut hapart
    obtain ⟨leftContent, hleft, -⟩ := hcut.ends left (by simp)
    obtain ⟨rightContent, hright, -⟩ := hcut.ends right (by simp)
    rw [List.isChain_append_cons_cons] at hapart
    exact not_apart hsplit ⟨_, hleft.symm⟩ ⟨_, hright.symm⟩ hleast (by omega) hapart.2.1

/-- The commands that may be followed by a transfer body. -/
def isTransferLine (line : Bytes) : Bool :=
  let kind := (RequestLine.parse line).kind
  kind = .takeThis || kind = .post || kind = .ihave ||
    ["TAKETHIS", "POST", "IHAVE"].any fun verb => isKnownTransferCommand line (ascii verb)

theorem takesBody_of_not_transfer (h : isTransferLine line = false) (rest : Bytes) :
    takesBody line rest = false := by
  unfold isTransferLine at h
  unfold takesBody
  simp only [Bool.or_eq_false_iff, List.any_cons, List.any_nil] at h
  obtain ⟨⟨⟨htakethis, hpost⟩, hihave⟩, htakethisVerb, hpostVerb, hihaveVerb, -⟩ := h
  simp only [htakethis, hpost, hihave, htakethisVerb, hpostVerb, hihaveVerb, Bool.or_false,
    Bool.false_and]

/-- The conditions on the lines and the tail of a stream under which no delivery moves a line end.
-/
structure StableLines (depth : Nat) (lines : List Bytes) (tail : Bytes) : Prop where
  line_le : ∀ line ∈ lines, line.length ≤ MAX_COMMAND_LINE_BYTES + 1
  tail_lt : tail.length < 2 * (MAX_COMMAND_LINE_BYTES + 1)
  apart : depth ≤ 1 ∨ lines.tail.IsChain Apart

theorem StableLines.of_append {before : List Bytes}
    (h : StableLines depth (before ++ lines) tail) : StableLines depth lines tail where
  line_le := fun line hline => h.line_le line (List.mem_append_right _ hline)
  tail_lt := h.tail_lt
  apart := by
    apply h.apart.imp_right
    intro hchain
    cases before with
    | nil => exact hchain
    | cons first before =>
      have hlines : lines.IsChain Apart := List.IsChain.right_of_append hchain
      exact hlines.tail

/-- The lines that are handed over for the lines and the tail of a stable stream. -/
def handed (lines : List Bytes) (tail : Bytes) : List Bytes :=
  lines.map clipLine ++ if tail.length > MAX_COMMAND_LINE_BYTES then [TOO_LONG_LINE] else []

theorem readBufferedCommands_lines {slots : Nat} (hlive : reader.Live)
    (hspace : reader.buffer.length < SERVER_READER_CAPACITY)
    (hcut : LfCut reader.pending lines tail) (hapart : slots = 0 ∨ lines.IsChain Apart)
    (hplain : ∀ line ∈ lines, isTransferLine line = false) (batch : Batch) :
    ∃ before after commands stop, lines = before ++ after ∧ LfCut stop.pending after tail ∧
      stop.Live ∧ readBufferedCommands slots reader batch =
        (.ok (), stop, ⟨commands, batch.lines ++ before.map clipLine⟩) := by
  -- The loop over buffered lines takes whole lines of the stream.
  induction slots generalizing lines reader batch with
  | zero => exact ⟨[], lines, batch.commands, reader, rfl, hcut,
      hlive, by simp [readBufferedCommands]⟩
  | succ slots ih =>
    have hchain := hapart.resolve_left (Nat.succ_ne_zero slots)
    rw [readBufferedCommands, readBufferedCrlfLineInto]
    cases hfind : findCrlfLineEnd reader.buffer 0 with
    | none => exact ⟨[], lines, batch.commands, reader, rfl, hcut, hlive, by simp⟩
    | some take =>
      obtain ⟨line, rest, rfl, rfl, hle, hline⟩ := findCrlfLineEnd_eq_some hcut hchain hspace hfind
      rw [List.forall_mem_cons] at hplain
      have hclip : takesBody (clipLine line) (reader.consume line.length).buffer = false :=
        takesBody_clipLine (takesBody_of_not_transfer hplain.1 _)
      have hrest : (reader.consume line.length).pending = rest.flatten ++ tail := by
        rw [reader.pending_consume hle, hcut.stream_eq, List.flatten_cons, List.append_assoc,
          List.drop_left]
      have hsmall : (reader.consume line.length).buffer.length < SERVER_READER_CAPACITY := by
        simp only [BufReader.consume, List.length_drop]
        omega
      have hrestCut : LfCut (reader.consume line.length).pending rest tail := by
        rw [hrest]
        exact hcut.of_cons
      have hwhich : (if line.length > MAX_COMMAND_LINE_BYTES then TOO_LONG_LINE
          else reader.buffer.take line.length) = clipLine line := by
        rw [hline]
        rfl
      dsimp only [Option.map_some]
      rw [hwhich, pushCommand_plain hclip]
      dsimp only
      obtain ⟨before, after, commands, stop, hsplit, hstop, hstopLive, hread⟩ :=
        ih (hlive.consume line.length) hsmall hrestCut (Or.inr hchain.tail) hplain.2 _
      exact ⟨line :: before, after, commands, stop, by rw [hsplit]; rfl, hstop, hstopLive,
        by rw [hread]; simp⟩

theorem commandLines_of_line {next stop : BufReader} {batch : Batch}
    (hread : readCrlfLineInto reader [] = (.ok (some line), next))
    (hbody : takesBody line next.buffer = false)
    (hbuffered : readBufferedCommands (depth - 1) next
      ⟨[{ parseCommandLine line 0 with hasTransferBody := false }],
      [line]⟩ = (.ok (), stop, batch)) :
    commandLines depth reader = batch.lines ++ commandLines depth stop := by
  have hbatch : readCommandBatch reader depth = (.ok true, stop, batch) := by
    unfold readCommandBatch
    rw [hread]
    dsimp only
    rw [pushCommand_plain hbody]
    dsimp only [List.length_nil, List.nil_append]
    rw [hbuffered]
  rw [commandLines]
  split
  · next heq =>
    rw [hbatch] at heq
    cases heq
    rfl
  · next heq =>
    rw [hbatch] at heq
    cases heq
  · next heq =>
    rw [hbatch] at heq
    cases heq

theorem commandLines_of_end (hread : ∀ line, (readCrlfLineInto reader []).1 ≠ .ok (some line)) :
    commandLines depth reader = [] := by
  have hbatch : (readCommandBatch reader depth).1 ≠ .ok true ∧
      (readCommandBatch reader depth).2.2.lines = [] := by
    unfold readCommandBatch
    generalize readCrlfLineInto reader [] = read at hread
    obtain ⟨result, next⟩ := read
    match result with
    | .error error => simp
    | .ok none => simp
    | .ok (some line) => exact absurd rfl (hread line)
  rw [commandLines]
  split
  · next heq =>
    rw [heq] at hbatch
    exact absurd rfl hbatch.1
  · next heq =>
    rw [heq] at hbatch
    exact hbatch.2
  · next heq =>
    rw [heq] at hbatch
    exact hbatch.2

theorem readCrlfLineInto_of_cut (hlive : reader.Live) {rest : List Bytes}
    (hcut : LfCut reader.pending (line :: rest) tail)
    (hline : line.length ≤ MAX_COMMAND_LINE_BYTES + 1) :
    ∃ next, readCrlfLineInto reader [] = (.ok (some (clipLine line)), next) ∧ next.Live ∧
      next.buffer.length < SERVER_READER_CAPACITY ∧ LfCut next.pending rest tail := by
  -- On a stable stream the first line of a batch is the first line of the stream.
  have hspec : LineRead [] reader.pending (readCrlfLineInto reader []) :=
    readCrlfLineInto_spec hlive (Nat.zero_le _)
  generalize readCrlfLineInto reader [] = read at hspec ⊢
  obtain ⟨result, next⟩ := read
  have htake := lineTake_of_cut hcut
  have hdrop : reader.pending.drop line.length = rest.flatten ++ tail := by
    rw [hcut.stream_eq, List.flatten_cons, List.append_assoc, List.drop_left]
  have hrest : LfCut (reader.pending.drop line.length) rest tail := by
    rw [hdrop]
    exact hcut.of_cons
  unfold LineRead at hspec
  rw [htake, List.length_nil, Nat.zero_add] at hspec
  by_cases hlong : MAX_COMMAND_LINE_BYTES < line.length
  · rw [if_pos hlong] at hspec
    obtain ⟨hresult, hnext, hspace, count, hcount, hbehind, hpending⟩ := hspec
    obtain rfl : count = line.length := by omega
    dsimp only at hresult hnext hspace hpending
    refine ⟨next, ?_, hnext, hspace, ?_⟩
    · rw [hresult, clipLine_of_lt hlong]
    · rw [hpending]
      exact hrest
  · have hmem : LF ∈ reader.pending := by
      obtain ⟨before, hbefore, -⟩ := hcut.ends line List.mem_cons_self
      rw [hcut.stream_eq, hbefore]
      simp
    have hwhole : reader.pending.take line.length = line := by
      rw [hcut.stream_eq, List.flatten_cons, List.append_assoc, List.take_left]
    rw [if_neg hlong, if_pos hmem, hwhole, List.nil_append] at hspec
    obtain ⟨hresult, hnext, hspace, hpending⟩ := hspec
    dsimp only at hresult hnext hspace hpending
    refine ⟨next, ?_, hnext, hspace, ?_⟩
    · rw [hresult, clipLine_of_le (by omega)]
    · rw [hpending]
      exact hrest

theorem commandLines_of_stable (hlive : reader.Live) (hcut : LfCut reader.pending lines tail)
    (hstable : StableLines depth lines tail)
    (hplain : ∀ line ∈ lines, isTransferLine line = false) :
    commandLines depth reader = handed lines tail := by
  -- A batch leaves a suffix of the lines, and of an overlong tail what had not arrived.
  induction hn : reader.pending.length using Nat.strong_induction_on generalizing reader lines
    tail with
  | _ n ih =>
    cases lines with
    | nil =>
      have hspec : LineRead [] reader.pending (readCrlfLineInto reader []) :=
        readCrlfLineInto_spec hlive (Nat.zero_le _)
      have htail : reader.pending = tail := hcut.stream_eq
      rw [htail] at hspec hn
      unfold LineRead at hspec
      rw [lineTake_of_notMem hcut.tail_open, List.length_nil, Nat.zero_add] at hspec
      by_cases hlong : MAX_COMMAND_LINE_BYTES < tail.length
      · rw [if_pos hlong] at hspec
        generalize hread : readCrlfLineInto reader [] = read at hspec
        obtain ⟨result, next⟩ := read
        obtain ⟨hresult, hnext, hspace, count, hcount, hbehind, hpending⟩ := hspec
        dsimp only at hresult hnext hspace hpending
        have hrest : LfCut next.pending [] (tail.drop count) :=
          ⟨hpending, by simp, fun hmem => hcut.tail_open (List.mem_of_mem_drop hmem)⟩
        obtain ⟨before, after, commands, stop, hsplit, hstop, hstopLive, hbuffered⟩ :=
          readBufferedCommands_lines hnext hspace hrest (Or.inr List.isChain_nil) (by simp)
            ⟨[{ parseCommandLine TOO_LONG_LINE 0 with hasTransferBody := false }], [TOO_LONG_LINE]⟩
        obtain ⟨rfl, rfl⟩ := List.append_eq_nil_iff.mp hsplit.symm
        have hshort := hstable.tail_lt
        have hlength : (tail.drop count).length ≤ MAX_COMMAND_LINE_BYTES := by
          rw [List.length_drop]
          omega
        have hless : stop.pending.length < n := by
          rw [hstop.stream_eq, List.flatten_nil, List.nil_append, List.length_drop]
          omega
        have hafter : StableLines depth [] (tail.drop count) :=
          ⟨by simp, by omega, Or.inr List.isChain_nil⟩
        rw [hresult] at hread
        rw [commandLines_of_line hread (takesBody_tooLong _) hbuffered,
          ih _ hless hstopLive hstop hafter (by simp) rfl, handed, handed, if_pos hlong,
          if_neg (by omega)]
        rfl
      · rw [if_neg hlong, if_neg hcut.tail_open] at hspec
        rw [handed, if_neg hlong, commandLines_of_end]
        · rfl
        · intro line hline
          rw [hspec] at hline
          split_ifs at hline
          simp at hline
    | cons line rest =>
      obtain ⟨next, hread, hnext, hspace, hrest⟩ :=
        readCrlfLineInto_of_cut hlive hcut (hstable.line_le line List.mem_cons_self)
      rw [List.forall_mem_cons] at hplain
      have hbody : takesBody (clipLine line) next.buffer = false :=
        takesBody_clipLine (takesBody_of_not_transfer hplain.1 _)
      have hapart : depth - 1 = 0 ∨ rest.IsChain Apart :=
        hstable.apart.imp_left fun hdepth => Nat.sub_eq_zero_of_le hdepth
      obtain ⟨before, after, commands, stop, rfl, hstop, hstopLive, hbuffered⟩ :=
        readBufferedCommands_lines hnext hspace hrest hapart hplain.2
          ⟨[{ parseCommandLine (clipLine line) 0 with hasTransferBody := false }], [clipLine line]⟩
      have hafter : StableLines depth after tail := by
        rw [← List.cons_append] at hstable
        exact hstable.of_append
      have hless : stop.pending.length < n := by
        obtain ⟨content, rfl, -⟩ := hcut.ends line List.mem_cons_self
        rw [← hn, hcut.stream_eq, hstop.stream_eq]
        simp only [List.flatten_cons, List.flatten_append, List.length_append,
          List.length_singleton]
        omega
      rw [commandLines_of_line hread hbody hbuffered, ih _ hless hstopLive hstop hafter
        (fun line hline => hplain.2 line (List.mem_append_right _ hline)) rfl]
      simp [handed]

end NntpBench.Server
