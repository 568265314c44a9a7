import NntpBench.Server.BodyGrammar

namespace NntpBench.Server

open Protocol Terminator BufferedResponseReceiver

variable {hand : Bytes → Bytes} {input line rest body : Bytes} {commands : List (Bytes × Bytes)}
  {start fin depth : Nat}

/-- Whether a line is followed by a transfer body, where `rest` is what comes after it. -/
def takesBody (line rest : Bytes) : Bool :=
  let kind := (RequestLine.parse line).kind
  (kind = .takeThis || isKnownTransferCommand line (ascii "TAKETHIS")) ||
    ((kind = .post || kind = .ihave || isKnownTransferCommand line (ascii "POST") ||
      isKnownTransferCommand line (ascii "IHAVE")) && (rest.takeWhile (· ≠ LF)).contains 58)

/-- The input is a sequence of CRLF lines, each with the transfer body behind it. A reader sees
`hand line` in place of a line. -/
inductive Cut (hand : Bytes → Bytes) : Bytes → List (Bytes × Bytes) → Prop
  | nil : Cut hand [] []
  | plain {line rest : Bytes} {commands : List (Bytes × Bytes)} (hline : IsLineContent line)
    (hbody : takesBody (hand (line ++ CRLF)) rest = false) (hrest : Cut hand rest commands) :
    Cut hand (line ++ CRLF ++ rest) ((line ++ CRLF, []) :: commands)
  | transfer {line body rest : Bytes} {commands : List (Bytes × Bytes)}
    (hline : IsLineContent line) (hbody : takesBody (hand (line ++ CRLF)) (body ++ rest) = true)
    (hscan : scanBody .lineStart 0 (body ++ rest) = .complete body.length)
    (hrest : Cut hand rest commands) :
    Cut hand (line ++ CRLF ++ (body ++ rest)) ((line ++ CRLF, body) :: commands)

/-- What the server's readers hand over for a line. -/
def clipLine (line : Bytes) : Bytes :=
  if line.length > MAX_COMMAND_LINE_BYTES then TOO_LONG_LINE else line

def bytesOf (commands : List (Bytes × Bytes)) : Bytes :=
  (commands.map fun command => command.1 ++ command.2).flatten

theorem Cut.bytesOf_eq (h : Cut hand input commands) : bytesOf commands = input := by
  induction h with
  | nil => rfl
  | plain hline hbody hrest ih =>
    unfold bytesOf at ih ⊢
    rw [List.map_cons, List.flatten_cons, ih, List.append_nil]
  | transfer hline hbody hscan hrest ih =>
    unfold bytesOf at ih ⊢
    rw [List.map_cons, List.flatten_cons, ih, List.append_assoc]

theorem shouldReadTransferBody_eq (reader : BufReader) (line : Bytes) (lineSlot : Nat) :
    shouldReadTransferBody reader line (parseCommandLine line lineSlot) =
      takesBody line reader.buffer := by
  unfold shouldReadTransferBody takesBody
  rw [kind_parseCommandLine]
  split_ifs with htake hpost
  · simp [htake]
  · simp only [Bool.not_eq_true'] at hpost
    simp [htake, hpost]
  · simp only [Bool.not_eq_true', Bool.not_eq_false] at hpost
    simp [htake, hpost]

theorem nextBatchLineContainsColon_eq (h : start ≤ input.length) :
    nextBatchLineContainsColon input start =
      ((input.drop start).takeWhile (· ≠ LF)).contains 58 := by
  unfold nextBatchLineContainsColon
  rw [getFrom_of_le h]
  generalize input.drop start = rest
  dsimp only
  unfold lineTake
  cases hmem : memchr LF rest with
  | none =>
    have hnot := memchr_eq_none_iff.mp hmem
    rw [Option.map_none, Option.getD_none, List.take_length, List.takeWhile_eq_self_iff.mpr]
    exact fun byte hbyte => decide_eq_true (ne_of_mem_of_not_mem hbyte hnot)
  | some index =>
    obtain ⟨before, after, rfl, rfl, hnot⟩ := memchr_eq_some_iff.mp hmem
    have hall : ∀ byte ∈ before, decide (byte ≠ LF) = true :=
      fun byte hbyte => decide_eq_true (ne_of_mem_of_not_mem hbyte hnot)
    have hcolon : (58 : UInt8) ≠ LF := by decide
    rw [List.takeWhile_append_of_pos hall, Option.map_some, Option.getD_some,
      List.take_length_add_append]
    simp [hcolon]

/-- A complete body starts with a line: the dot line that ends it, or a line after which the rest
of the body is complete. -/
theorem scanBody_lineStart {data : Bytes} {consumed : Nat}
    (h : scanBody .lineStart consumed data = .complete fin) :
    (∃ rest, data = [DOT] ++ CRLF ++ rest ∧ fin = consumed + 3) ∨
    ∃ line rest, data = line ++ CRLF ++ rest ∧ IsLineContent line ∧
      scanBody .lineStart (consumed + (line.length + 2)) rest = .complete fin := by
  obtain ⟨block, after, rfl, hblock, rfl⟩ := scanBody_complete_iff.mp h
  rcases isBlock_iff.mp hblock with rfl | ⟨line, rest, hline, hrest, rfl⟩
  · exact .inl ⟨after, rfl, rfl⟩
  · refine .inr ⟨line, rest ++ after, by simp [crlf_eq], hline.content, ?_⟩
    apply scanBody_complete_iff.mpr
    refine ⟨rest, after, rfl, hrest, ?_⟩
    simp only [List.length_append, List.length_cons]
    omega

theorem scanBody_shift (state : TakeThisBodyState) (consumed shift : Nat) (data : Bytes)
    (fin : Nat) : scanBody state (consumed + shift) data = .complete (fin + shift) ↔
      scanBody state consumed data = .complete fin := by
  rw [scanBody_add]
  cases scanBody state consumed data with
  | complete count => simp [BodyProgress.advance]
  | invalid error count => simp [BodyProgress.advance]
  | incomplete next => simp [BodyProgress.advance]

theorem scanBody_complete_le {state : TakeThisBodyState} {consumed : Nat} {data : Bytes}
    (h : scanBody state consumed data = .complete fin) :
    consumed < fin ∧ fin ≤ consumed + data.length := by
  obtain ⟨block, rest, rfl, hblock, rfl⟩ := scanBody_complete_iff.mp h
  have hne : block ≠ [] := by
    rintro rfl
    exact not_completes_nil state hblock
  have hpos := List.length_pos_of_ne_nil hne
  rw [List.length_append]
  omega

theorem takesBody_eq_false (hkind : (RequestLine.parse line).kind = .unknown)
    (hverb : ∀ verb ∈ ["TAKETHIS", "POST", "IHAVE"].map ascii,
      isKnownTransferCommand line verb = false)
    (rest : Bytes) : takesBody line rest = false := by
  simp only [List.map_cons, List.map_nil, List.forall_mem_cons] at hverb
  obtain ⟨htakethis, hpost, hihave, -⟩ := hverb
  simp [takesBody, hkind, htakethis, hpost, hihave]

theorem takesBody_tooLong (rest : Bytes) : takesBody TOO_LONG_LINE rest = false :=
  takesBody_eq_false (by decide +kernel) (by decide +kernel) rest

theorem takesBody_dot (rest : Bytes) : takesBody ([DOT] ++ CRLF) rest = false :=
  takesBody_eq_false (by decide +kernel) (by decide +kernel) rest

theorem clipLine_of_le (h : line.length ≤ MAX_COMMAND_LINE_BYTES) :
    clipLine line = line := if_neg (by omega)

theorem clipLine_of_lt (h : MAX_COMMAND_LINE_BYTES < line.length) :
    clipLine line = TOO_LONG_LINE := if_pos h

theorem takesBody_clipLine (h : takesBody line rest = false) :
    takesBody (clipLine line) rest = false := by
  unfold clipLine
  split_ifs
  · exact takesBody_tooLong rest
  · exact h

theorem cut_body (hscan : scanBody .lineStart 0 (body ++ rest) = .complete body.length)
    (hrest : Cut clipLine rest commands) :
    ∃ more, Cut clipLine (body ++ rest) more ∧ commands.length < more.length := by
  -- The lines of a body that is not read as one are commands, and at least one of them.
  -- The body loses its first line in each step.
  induction hn : body.length using Nat.strong_induction_on generalizing body with
  | _ n ih =>
    rcases scanBody_lineStart hscan with ⟨after, hdata, hlength⟩ | ⟨line, after, hdata, hline,
      hnext⟩
    · obtain ⟨rfl, rfl⟩ := List.append_inj hdata (by rw [hlength]; rfl)
      have hplain : takesBody (clipLine ([DOT] ++ CRLF)) rest = false :=
        takesBody_clipLine (takesBody_dot rest)
      exact ⟨_, Cut.plain (by decide) hplain hrest, by simp⟩
    · obtain ⟨hlt, -⟩ := scanBody_complete_le hnext
      have hsplit : body = line ++ CRLF ++ body.drop (line ++ CRLF).length := by
        have hbegin : line ++ CRLF <+: body := by
          apply List.prefix_of_prefix_length_le (List.prefix_append (line ++ CRLF) after)
          · rw [← hdata]
            exact List.prefix_append body rest
          · rw [List.length_append, length_crlf]
            omega
        obtain ⟨tail, rfl⟩ := hbegin
        rw [List.drop_left]
      generalize body.drop (line ++ CRLF).length = tail at hsplit
      subst hsplit
      rw [List.append_assoc] at hdata
      obtain rfl := List.append_cancel_left hdata
      have htotal : (line ++ CRLF ++ tail).length = tail.length + (line.length + 2) := by
        simp only [List.length_append, length_crlf]
        omega
      have htail : scanBody .lineStart 0 (tail ++ rest) = .complete tail.length := by
        rw [htotal, scanBody_shift] at hnext
        exact hnext
      rw [List.append_assoc]
      by_cases hbody : takesBody (clipLine (line ++ CRLF)) (tail ++ rest) = true
      · exact ⟨_, Cut.transfer hline hbody htail hrest, by simp⟩
      · obtain ⟨more, hmore, hlonger⟩ := ih tail.length (by omega) htail rfl
        refine ⟨_, Cut.plain hline (by simpa using hbody) hmore, ?_⟩
        rw [List.length_cons]
        omega

/-- The server's reader finds the same commands, and more of them when a replaced line has a
body. -/
theorem Cut.clip (h : Cut id input commands) :
    ∃ more, Cut clipLine input more ∧ commands.length ≤ more.length ∧
      ((∀ command ∈ commands, command.2 ≠ [] → command.1.length ≤ MAX_COMMAND_LINE_BYTES) ↔
        more.length = commands.length) ∧ (more.length = commands.length → more = commands) := by
  induction h with
  | nil => exact ⟨[], .nil, le_rfl, by simp, fun _ => rfl⟩
  | plain hline hbody hrest ih =>
    obtain ⟨more, hmore, hle, hiff, heq⟩ := ih
    refine ⟨_, .plain hline (takesBody_clipLine hbody) hmore, Nat.succ_le_succ hle, ?_, ?_⟩
    · simpa using hiff
    · intro hlength
      rw [heq (by simpa using hlength)]
  | @transfer line body rest commands hline hbody hscan hrest ih =>
    obtain ⟨more, hmore, hle, hiff, heq⟩ := ih
    obtain ⟨hpos, -⟩ := scanBody_complete_le hscan
    have hne : body ≠ [] := List.ne_nil_of_length_pos hpos
    by_cases hshort : (line ++ CRLF).length ≤ MAX_COMMAND_LINE_BYTES
    · have hclip : takesBody (clipLine (line ++ CRLF)) (body ++ rest) = true := by
        rw [clipLine_of_le hshort]
        exact hbody
      refine ⟨_, .transfer hline hclip hscan hmore, Nat.succ_le_succ hle, ?_, ?_⟩
      · rw [List.forall_mem_cons, List.length_cons, List.length_cons, Nat.add_right_cancel_iff,
          ← hiff]
        exact ⟨fun hall => hall.2, fun hall => ⟨fun _ => hshort, hall⟩⟩
      · intro hlength
        rw [heq (by simpa using hlength)]
    · have hclip : takesBody (clipLine (line ++ CRLF)) (body ++ rest) = false := by
        rw [clipLine_of_lt (by omega)]
        exact takesBody_tooLong _
      obtain ⟨longer, hlonger, hlt⟩ := cut_body hscan hmore
      refine ⟨_, .plain hline hclip hlonger, ?_, ?_, ?_⟩
      · simp only [List.length_cons]
        omega
      · simp only [List.forall_mem_cons, List.length_cons]
        constructor
        · intro hall
          exact absurd (hall.1 hne) hshort
        · intro hlength
          omega
      · intro hlength
        simp only [List.length_cons] at hlength
        omega

theorem takesBody_eq (line : Bytes) (h : fin ≤ input.length) :
    takesBody line (input.drop fin) =
      (((RequestLine.parse line).kind = .takeThis || isKnownTransferCommand line
        (ascii "TAKETHIS")) ||
        (((RequestLine.parse line).kind = .post || (RequestLine.parse line).kind = .ihave ||
          isKnownTransferCommand line (ascii "POST") ||
          isKnownTransferCommand line (ascii "IHAVE")) && nextBatchLineContainsColon input
            fin)) := by
  rw [nextBatchLineContainsColon_eq h]
  rfl

theorem forEachRequestLineFrom_succ (slots : Nat) (hstart : start ≤ input.length)
    (hdata : input.drop start = line ++ CRLF ++ rest) (hline : IsLineContent line) :
    forEachRequestLineFrom input (slots + 1) start =
      let fin := start + (line.length + 2)
      let visit (next : Nat) : List RequestLine × Nat :=
        (RequestLine.parse (line ++ CRLF) :: (forEachRequestLineFrom input slots next).1,
          (forEachRequestLineFrom input slots next).2)
      if takesBody (line ++ CRLF) rest then
        match scanBody .lineStart 0 rest with
        | .complete consumed => visit (fin + consumed)
        | .invalid _ _ => ([], start)
        | .incomplete _ => ([], start)
      else visit fin := by
  -- One round of the slice reader at a complete line.
  have hlengths := congrArg List.length hdata
  simp only [List.length_drop, List.length_append, length_crlf] at hlengths
  have hfin : start + (line.length + 2) ≤ input.length := by omega
  have hdetect : detectResponseLineEndFrom input start =
      .completeAt (start + (line.length + 2)) := by
    rw [detectResponseLineEndFrom_of_le hstart, hdata, crlf_eq, List.append_assoc]
    simp only [List.cons_append, List.nil_append, detectResponseLineEnd_line hline]
  have hextract : input.extract start (start + (line.length + 2)) = line ++ CRLF := by
    have hcount : start + (line.length + 2) - start = (line ++ CRLF).length := by
      rw [List.length_append, length_crlf]
      omega
    rw [List.extract_eq_take_drop, hdata, hcount, List.take_left]
  have hrest : input.drop (start + (line.length + 2)) = rest := by
    have hcount : line.length + 2 = (line ++ CRLF).length := by rw [List.length_append, length_crlf]
    rw [← List.drop_drop, hdata, hcount, List.drop_left]
  have htakes := takesBody_eq (line ++ CRLF) hfin
  rw [hrest] at htakes
  rw [forEachRequestLineFrom]
  simp only [hdetect, hextract, ← htakes, scanDotTerminatedBody_eq hfin, hrest]
  split_ifs
  · cases scanBody .lineStart 0 rest <;> rfl
  · rfl

theorem cut_at_end (hend : start = input.length) (slots : Nat) :
    ∃ commands, Cut id (input.drop start) commands ∧ commands.length ≤ slots ∧
      ([] : List RequestLine) = commands.map fun command => RequestLine.parse command.1 := by
  rw [hend, List.drop_length]
  exact ⟨[], .nil, Nat.zero_le _, rfl⟩

theorem cut_of_forEachRequestLineFrom {slots : Nat} (hstart : start ≤ input.length)
    (h : (forEachRequestLineFrom input slots start).2 = input.length) :
    ∃ commands, Cut id (input.drop start) commands ∧ commands.length ≤ slots ∧
      (forEachRequestLineFrom input slots start).1 =
        commands.map fun command => RequestLine.parse command.1 := by
  -- When the slice reader consumes all of its input, the input is what it visited.
  induction slots generalizing start with
  | zero =>
    rw [forEachRequestLineFrom] at h ⊢
    exact cut_at_end h 0
  | succ slots ih =>
    cases hdetect : detectResponseLineEnd (input.drop start) with
    | needMore =>
      rw [forEachRequestLineFrom, detectResponseLineEndFrom_of_le hstart, hdetect] at h ⊢
      exact cut_at_end h _
    | invalid =>
      rw [forEachRequestLineFrom, detectResponseLineEndFrom_of_le hstart, hdetect] at h ⊢
      exact cut_at_end h _
    | completeAt fin =>
      obtain ⟨line, rest, hdata, hline, rfl⟩ := detectResponseLineEnd_eq_completeAt hdetect
      replace hdata : input.drop start = line ++ CRLF ++ rest := by
        rw [hdata, crlf_eq, List.append_assoc]
        rfl
      have hlengths := congrArg List.length hdata
      simp only [List.length_drop, List.length_append, length_crlf] at hlengths
      have hrest : input.drop (start + (line.length + 2)) = rest := by
        have hcount : line.length + 2 = (line ++ CRLF).length := by
          rw [List.length_append, length_crlf]
        rw [← List.drop_drop, hdata, hcount, List.drop_left]
      rw [forEachRequestLineFrom_succ slots hstart hdata hline] at h ⊢
      dsimp only at h ⊢
      split_ifs at h ⊢ with hbody
      · cases hscan : scanBody .lineStart 0 rest with
        | complete consumed =>
          simp only [hscan] at h ⊢
          obtain ⟨-, hle⟩ := scanBody_complete_le hscan
          obtain ⟨commands, hcut, hlength, hvisited⟩ := ih (by omega) h
          have htail : input.drop (start + (line.length + 2) + consumed) = rest.drop consumed := by
            rw [← List.drop_drop, hrest]
          have hcount : (rest.take consumed).length = consumed := by
            rw [List.length_take]
            omega
          have hsplit := List.take_append_drop consumed rest
          rw [htail] at hcut
          rw [hdata, ← hsplit, hvisited]
          refine ⟨_, Cut.transfer hline ?_ ?_ hcut, Nat.succ_le_succ hlength, rfl⟩
          · rw [hsplit]
            exact hbody
          · rw [hsplit, hcount, hscan]
        | invalid error consumed =>
          simp only [hscan] at h
          omega
        | incomplete state =>
          simp only [hscan] at h
          omega
      · obtain ⟨commands, hcut, hlength, hvisited⟩ := ih (by omega) h
        rw [hrest] at hcut
        rw [hdata, hvisited]
        exact ⟨_, Cut.plain hline (by simpa using hbody) hcut, Nat.succ_le_succ hlength, rfl⟩

/-- The batch after some commands: each is parsed from the line that was handed over. -/
def pushAll (batch : Batch) : List (Bytes × Bytes) → Batch
  | [] => batch
  | (line, body) :: commands =>
    pushAll
      ⟨batch.commands ++
        [{ parseCommandLine (clipLine line) batch.commands.length with
            hasTransferBody := body ≠ [] }],
        batch.lines ++ [clipLine line]⟩ commands

theorem readDotTerminatedBody_of_scan {socket : List ReadEvent}
    (hscan : scanBody .lineStart 0 (body ++ rest) = .complete body.length) :
    readDotTerminatedBody ⟨body ++ rest, socket⟩ .lineStart = (.ok (), ⟨rest, socket⟩) := by
  obtain ⟨hpos, -⟩ := scanBody_complete_le hscan
  have hne : body ++ rest ≠ [] := by
    have hbody := List.ne_nil_of_length_pos hpos
    simp [hbody]
  have hfill : BufReader.fillBuf ⟨body ++ rest, socket⟩ = (.ok (), ⟨body ++ rest, socket⟩) :=
    if_pos hne
  rw [readDotTerminatedBody]
  split
  · next heq =>
    rw [hfill] at heq
    cases heq
  · next filled heq =>
    rw [hfill] at heq
    cases heq
    rw [dif_neg hne]
    simp [hscan, BufReader.consume]

theorem hasTransferBody_parseCommandLine (line : Bytes) (lineSlot : Nat) :
    (parseCommandLine line lineSlot).hasTransferBody = false := by
  unfold parseCommandLine
  cases hfast : parseFastArticleMessageIdCommand line lineSlot with
  | none => rfl
  | some command =>
    obtain ⟨messageId, -, rfl⟩ := parseFastArticleMessageIdCommand_spec hfast
    rfl

theorem pushCommand_plain {reader : BufReader} (h : takesBody line reader.buffer = false)
    (batch : Batch) :
    pushCommand reader line batch =
      (.ok (), reader,
        ⟨batch.commands ++ [{ parseCommandLine line batch.commands.length with
          hasTransferBody := false }], batch.lines ++ [line]⟩) := by
  have hself : { parseCommandLine line batch.commands.length with hasTransferBody := false } =
      parseCommandLine line batch.commands.length := by
    have hbody := hasTransferBody_parseCommandLine line batch.commands.length
    revert hbody
    generalize parseCommandLine line batch.commands.length = command
    intro hbody
    rw [← hbody]
  unfold pushCommand
  simp only [shouldReadTransferBody_eq, h, hself, Bool.false_eq_true, if_false]

theorem pushCommand_transfer {socket : List ReadEvent} (h : takesBody line (body ++ rest) = true)
    (hscan : scanBody .lineStart 0 (body ++ rest) = .complete body.length) (batch : Batch) :
    pushCommand ⟨body ++ rest, socket⟩ line batch =
      (.ok (), ⟨rest, socket⟩,
        ⟨batch.commands ++ [{ parseCommandLine line batch.commands.length with
          hasTransferBody := true }], batch.lines ++ [line]⟩) := by
  unfold pushCommand
  simp only [shouldReadTransferBody_eq, h, if_true, readDotTerminatedBody_of_scan hscan]

theorem readBufferedCrlfLineInto_line (hline : IsLineContent line) (rest : Bytes)
    (socket : List ReadEvent) :
    readBufferedCrlfLineInto ⟨line ++ CRLF ++ rest, socket⟩ =
      some (clipLine (line ++ CRLF), ⟨rest, socket⟩) := by
  have hlength : (line ++ CRLF).length = line.length + 2 := by rw [List.length_append, length_crlf]
  have hfind : findCrlfLineEnd (line ++ CRLF ++ rest) 0 = some (line ++ CRLF).length := by
    rw [hlength, crlf_eq, List.append_assoc]
    exact findCrlfLineEnd_of_detect (detectResponseLineEnd_line hline rest)
  unfold readBufferedCrlfLineInto
  dsimp only
  rw [hfind, Option.map_some, BufReader.consume, List.take_left, List.drop_left]
  rfl

theorem readCrlfLineInto_line (hline : IsLineContent line) (rest : Bytes)
    (socket : List ReadEvent) :
    readCrlfLineInto ⟨line ++ CRLF ++ rest, socket⟩ [] =
      (.ok (some (clipLine (line ++ CRLF))), ⟨rest, socket⟩) := by
  have hne : line ++ CRLF ++ rest ≠ [] := by simp [crlf_eq]
  have hfill : BufReader.fillBuf ⟨line ++ CRLF ++ rest, socket⟩ =
      (.ok (), ⟨line ++ CRLF ++ rest, socket⟩) := if_pos hne
  have hcount : lineTake (line ++ CRLF ++ rest) = (line ++ CRLF).length := by
    have hnot : LF ∉ line ++ [CR] := by simp [hline.2]
    have hsplit : line ++ CRLF ++ rest = line ++ [CR] ++ LF :: rest := by simp [crlf_eq]
    rw [lineTake, hsplit, memchr_append_cons hnot]
    simp
  have hlf : [LF] <:+ line ++ CRLF := ⟨line ++ [CR], by simp [crlf_eq]⟩
  rw [readCrlfLineInto]
  split
  · next heq =>
    rw [hfill] at heq
    cases heq
  · next filled heq =>
    rw [hfill] at heq
    cases heq
    simp only [hne, hcount, BufReader.consume, List.length_nil, Nat.zero_add, List.nil_append,
      List.take_left, List.drop_left, hlf, if_true, dite_false]
    unfold clipLine
    split_ifs <;> rfl

theorem readBufferedCommands_of_cut (h : Cut clipLine input commands) (slots : Nat) (batch : Batch)
    (socket : List ReadEvent) :
    readBufferedCommands slots ⟨input, socket⟩ batch =
      (.ok (), ⟨bytesOf (commands.drop slots), socket⟩, pushAll batch (commands.take slots)) := by
  -- The loop over buffered lines takes the commands off the buffer, up to its depth.
  induction h generalizing slots batch with
  | nil =>
    cases slots with
    | zero => rfl
    | succ slots =>
      rw [readBufferedCommands]
      rfl
  | plain hline hbody hrest ih =>
    cases slots with
    | zero =>
      rw [readBufferedCommands, List.drop_zero, Cut.bytesOf_eq (.plain hline hbody hrest)]
      rfl
    | succ slots =>
      rw [readBufferedCommands, readBufferedCrlfLineInto_line hline]
      dsimp only
      rw [pushCommand_plain hbody]
      dsimp only
      rw [ih]
      simp [pushAll]
  | transfer hline hbody hscan hrest ih =>
    cases slots with
    | zero =>
      rw [readBufferedCommands, List.drop_zero, Cut.bytesOf_eq (.transfer hline hbody hscan hrest)]
      rfl
    | succ slots =>
      obtain ⟨hpos, -⟩ := scanBody_complete_le hscan
      have hne := List.ne_nil_of_length_pos hpos
      rw [readBufferedCommands, readBufferedCrlfLineInto_line hline]
      dsimp only
      rw [pushCommand_transfer hbody hscan]
      dsimp only
      rw [ih]
      simp [pushAll, hne]

theorem readCommandBatch_of_cut (h : Cut clipLine input commands) (hne : input ≠ [])
    (hdepth : 1 ≤ depth) (socket : List ReadEvent) :
    readCommandBatch ⟨input, socket⟩ depth =
      (.ok true, ⟨bytesOf (commands.drop depth), socket⟩,
        pushAll ⟨[], []⟩ (commands.take depth)) := by
  obtain ⟨slots, rfl⟩ := Nat.exists_eq_add_of_le' hdepth
  unfold readCommandBatch
  cases h with
  | nil => exact absurd rfl hne
  | plain hline hbody hrest =>
    rw [readCrlfLineInto_line hline]
    dsimp only
    rw [pushCommand_plain hbody]
    dsimp only
    rw [readBufferedCommands_of_cut hrest]
    simp [pushAll]
  | transfer hline hbody hscan hrest =>
    obtain ⟨hpos, -⟩ := scanBody_complete_le hscan
    have hbodyNe := List.ne_nil_of_length_pos hpos
    rw [readCrlfLineInto_line hline]
    dsimp only
    rw [pushCommand_transfer hbody hscan]
    dsimp only
    rw [readBufferedCommands_of_cut hrest]
    simp [pushAll, hbodyNe]

theorem parse_clipLine (line : Bytes) :
    (RequestLine.parse (clipLine line)).kind = (RequestLine.parse line).kind ∧
      (RequestLine.parse (clipLine line)).messageId = (RequestLine.parse line).messageId := by
  by_cases hlong : MAX_COMMAND_LINE_BYTES < line.length
  · have hparse : RequestLine.parse line = ⟨.unknown, line, []⟩ := if_pos hlong
    have hclip : RequestLine.parse TOO_LONG_LINE = ⟨.unknown, TOO_LONG_LINE, []⟩ := by
      decide +kernel
    rw [clipLine_of_lt hlong, hparse, hclip]
    exact ⟨rfl, rfl⟩
  · rw [clipLine_of_le (by omega)]
    exact ⟨rfl, rfl⟩

theorem kinds_pushAll (batch : Batch) (commands : List (Bytes × Bytes)) :
    (pushAll batch commands).commands.map ParsedCommand.kind =
      batch.commands.map ParsedCommand.kind ++
        commands.map fun command => (RequestLine.parse command.1).kind := by
  induction commands generalizing batch with
  | nil => simp [pushAll]
  | cons command commands ih =>
    obtain ⟨line, body⟩ := command
    rw [pushAll, ih]
    simp [kind_parseCommandLine, (parse_clipLine line).1]

theorem length_pushAll (batch : Batch) (commands : List (Bytes × Bytes)) :
    (pushAll batch commands).commands.length = batch.commands.length + commands.length := by
  simpa using congrArg List.length (kinds_pushAll batch commands)

def Batch.messageIds (self : Batch) : List (Option Bytes) :=
  (self.commands.zip self.lines).map fun entry => entry.1.messageIdBytes entry.2

theorem messageIds_pushAll {batch : Batch} (h : batch.commands.length = batch.lines.length)
    (commands : List (Bytes × Bytes)) :
    (pushAll batch commands).messageIds = batch.messageIds ++
      commands.map fun command =>
        (RequestLine.parse command.1).messageId.map fun messageId => asBytes messageId.value := by
  induction commands generalizing batch with
  | nil => simp [pushAll]
  | cons command commands ih =>
    obtain ⟨line, body⟩ := command
    have hid : ∀ slot hasTransferBody, ParsedCommand.messageIdBytes
        { parseCommandLine (clipLine line) slot with hasTransferBody } (clipLine line) =
        (RequestLine.parse line).messageId.map fun messageId => asBytes messageId.value := by
      intro slot hasTransferBody
      rw [← (parse_clipLine line).2, ← messageIdBytes_parseCommandLine]
      rfl
    rw [pushAll, ih (by simp [h])]
    simp [Batch.messageIds, List.zip_append h, hid]

/-- What the two readers must agree on: the server's reader succeeds, consumes the input and
nothing of the socket, and reads as many commands, of the same kinds, with the same
message-ids. -/
structure ReadersAgree (input : Bytes) (depth : Nat) (socket : List ReadEvent) : Prop where
  succeeds : (readCommandBatch ⟨input, socket⟩ depth).1 = .ok true
  consumes : (readCommandBatch ⟨input, socket⟩ depth).2.1 = ⟨[], socket⟩
  kinds : (readCommandBatch ⟨input, socket⟩ depth).2.2.commands.map ParsedCommand.kind =
    (forEachRequestLineInBatch input depth).1.map RequestLine.kind
  messageIds : (readCommandBatch ⟨input, socket⟩ depth).2.2.messageIds =
    (forEachRequestLineInBatch input depth).1.map fun request =>
      request.messageId.map fun messageId => asBytes messageId.value

/-- The lines of the input that carry a transfer body all fit the server's line buffer. -/
def TransferLinesFit (input : Bytes) : Prop :=
  ∀ commands, Cut id input commands →
    ∀ command ∈ commands, command.2 ≠ [] → command.1.length ≤ MAX_COMMAND_LINE_BYTES

theorem bytesOf_ne_nil (h : Cut hand input commands) (hdepth : depth < commands.length) :
    bytesOf (commands.drop depth) ≠ [] := by
  have hline : ∀ command ∈ commands, command.1 ≠ [] := by
    clear hdepth
    induction h with
    | nil => simp
    | plain hline hbody hrest ih => simpa [crlf_eq] using ih
    | transfer hline hbody hscan hrest ih => simpa [crlf_eq] using ih
  rw [List.drop_eq_getElem_cons hdepth, bytesOf, List.map_cons, List.flatten_cons]
  have hfirst := hline _ (List.getElem_mem hdepth)
  simp [hfirst]

theorem line_inj {line' rest' : Bytes} (h : IsLineContent line) (h' : IsLineContent line')
    (heq : line ++ CRLF ++ rest = line' ++ CRLF ++ rest') : line = line' ∧ rest = rest' := by
  have hend : ∀ line rest : Bytes, IsLineContent line →
      detectResponseLineEnd (line ++ CRLF ++ rest) = .completeAt (line.length + 2) := by
    intro line rest hline
    rw [crlf_eq, List.append_assoc]
    exact detectResponseLineEnd_line hline rest
  have hlength : line.length = line'.length := by
    have hboth := hend line rest h
    rw [heq, hend line' rest' h'] at hboth
    have hinj := ResponseLineStatus.completeAt.inj hboth
    omega
  obtain ⟨hline, hrest⟩ := List.append_inj heq (by simp [hlength])
  exact ⟨List.append_cancel_right hline, hrest⟩

theorem Cut.unique {commands' : List (Bytes × Bytes)} (h : Cut hand input commands)
    (h' : Cut hand input commands') : commands = commands' := by
  -- An input has one sequence of commands.
  induction h generalizing commands' with
  | nil =>
    generalize hinput : ([] : Bytes) = input at h'
    cases h' with
    | nil => rfl
    | plain => simp [crlf_eq] at hinput
    | transfer => simp [crlf_eq] at hinput
  | plain hline hbody hrest ih =>
    generalize hinput : _ ++ CRLF ++ _ = input at h'
    cases h' with
    | nil => simp [crlf_eq] at hinput
    | plain hline' hbody' hrest' =>
      obtain ⟨rfl, rfl⟩ := line_inj hline hline' hinput
      rw [ih hrest']
    | transfer hline' hbody' hscan' hrest' =>
      obtain ⟨rfl, rfl⟩ := line_inj hline hline' hinput
      rw [hbody] at hbody'
      exact absurd hbody' (by simp)
  | transfer hline hbody hscan hrest ih =>
    generalize hinput : _ ++ CRLF ++ (_ ++ _) = input at h'
    cases h' with
    | nil => simp [crlf_eq] at hinput
    | plain hline' hbody' hrest' =>
      obtain ⟨rfl, rfl⟩ := line_inj hline hline' hinput
      rw [hbody] at hbody'
      exact absurd hbody' (by simp)
    | transfer hline' hbody' hscan' hrest' =>
      obtain ⟨rfl, hdata⟩ := line_inj hline hline' hinput
      rw [← hdata, hscan] at hscan'
      obtain ⟨rfl, rfl⟩ := List.append_inj hdata (BodyProgress.complete.inj hscan')
      rw [ih hrest']

theorem readersAgree_iff_of_cut (hcut : Cut id input commands) (hne : input ≠ [])
    (hdepth : 1 ≤ depth) (hlength : commands.length ≤ depth)
    (hvisited : (forEachRequestLineInBatch input depth).1 =
      commands.map fun command => RequestLine.parse command.1)
    (socket : List ReadEvent) :
    ReadersAgree input depth socket ↔
      ∀ command ∈ commands, command.2 ≠ [] → command.1.length ≤ MAX_COMMAND_LINE_BYTES := by
  -- The readers agree on the commands of an input when none of its replaced lines has a body.
  obtain ⟨more, hmore, hle, hiff, heq⟩ := hcut.clip
  have hread := readCommandBatch_of_cut hmore hne hdepth socket
  rw [hiff]
  constructor
  · intro hagree
    by_contra hmismatch
    by_cases hdeep : more.length ≤ depth
    · -- All the commands are read, and they are too many.
      have hkinds := congrArg List.length hagree.kinds
      rw [hread, hvisited, List.take_of_length_le hdeep] at hkinds
      simp only [List.length_map, length_pushAll, List.length_nil, Nat.zero_add] at hkinds
      exact hmismatch hkinds
    · -- The reader stops at its depth with bytes left.
      have hconsumes := hagree.consumes
      rw [hread] at hconsumes
      exact bytesOf_ne_nil hmore (Nat.lt_of_not_le hdeep) (congrArg BufReader.buffer hconsumes)
  · intro hsame
    obtain rfl := heq hsame
    have htake : more.take depth = more := List.take_of_length_le hlength
    have hdrop : more.drop depth = [] := List.drop_of_length_le hlength
    refine ⟨by rw [hread], ?_, ?_, ?_⟩
    · rw [hread, hdrop]
      rfl
    · rw [hread, htake, kinds_pushAll, hvisited]
      simp
    · rw [hread, htake, messageIds_pushAll rfl, hvisited]
      simp [Batch.messageIds]

/-- Where the slice reader consumes all of a non-empty input, the server's reader agrees with it
exactly when every line with a transfer body fits the server's line buffer. -/
theorem readers_agree_iff_transfer_lines_fit (input : Bytes) (depth : Nat)
    (socket : List ReadEvent) (hne : input ≠ []) (hdepth : 1 ≤ depth)
    (hall : (forEachRequestLineInBatch input depth).2 = input.length) :
    ReadersAgree input depth socket ↔ TransferLinesFit input := by
  obtain ⟨commands, hcut, hlength, hvisited⟩ := cut_of_forEachRequestLineFrom (Nat.zero_le _) hall
  rw [List.drop_zero] at hcut
  rw [readersAgree_iff_of_cut hcut hne hdepth hlength hvisited]
  constructor
  · intro hfit commands' hcut'
    rwa [← hcut.unique hcut']
  · exact fun hfit => hfit commands hcut

theorem transferLinesFit_of_short (h : input.length ≤ MAX_COMMAND_LINE_BYTES) :
    TransferLinesFit input := by
  intro commands hcut command hmem _
  have hpart : command.1 ++ command.2 <:+: bytesOf commands :=
    List.infix_of_mem_flatten (List.mem_map.mpr ⟨command, hmem, rfl⟩)
  rw [hcut.bytesOf_eq] at hpart
  have hle := hpart.length_le
  rw [List.length_append] at hle
  omega

/-- A transfer with its body, and a command behind it. -/
theorem takethis_and_quit_agree :
    ReadersAgree (ascii "TAKETHIS <a@b>\r\nx: y\r\n.\r\nQUIT\r\n") 4 [] := by
  have hall : (forEachRequestLineInBatch (ascii "TAKETHIS <a@b>\r\nx: y\r\n.\r\nQUIT\r\n") 4).2 =
      (ascii "TAKETHIS <a@b>\r\nx: y\r\n.\r\nQUIT\r\n").length := by
    decide +kernel
  exact (readers_agree_iff_transfer_lines_fit _ 4 [] (by decide) (by decide) hall).mpr
    (transferLinesFit_of_short (by decide))

def takethisLine (filler : Bytes) : Bytes := ascii "TAKETHIS " ++ filler

theorem takesBody_takethisLine {filler : Bytes} (h : IsLineContent (takethisLine filler))
    (rest : Bytes) : takesBody (takethisLine filler ++ CRLF) rest = true := by
  have hcontent : lineContent (takethisLine filler ++ CRLF) = takethisLine filler := by
    rw [lineContent, stripCompleteCrlfLine_crlf h, Option.getD_some]
  have hblank : (takethisLine filler).findIdx? isAsciiWhitespace = some 8 := by
    rw [takethisLine, List.findIdx?_append]
    rfl
  have hverb : lineVerb (takethisLine filler ++ CRLF) = ascii "TAKETHIS" := by
    rw [lineVerb, hcontent, hblank, Option.getD_some, takethisLine]
    rfl
  have hknown : isKnownTransferCommand (takethisLine filler ++ CRLF) (ascii "TAKETHIS") = true := by
    rw [isKnownTransferCommand, hverb]
    decide
  simp [takesBody, hknown]

theorem not_readersAgree_of_overlong {filler : Bytes} (h : IsLineContent (takethisLine filler))
    (hlong : MAX_COMMAND_LINE_BYTES < (takethisLine filler ++ CRLF).length) :
    (forEachRequestLineInBatch (takethisLine filler ++ CRLF ++ ascii ".\r\n") 2).2 =
        (takethisLine filler ++ CRLF ++ ascii ".\r\n").length ∧
      ¬ ReadersAgree (takethisLine filler ++ CRLF ++ ascii ".\r\n") 2 [] := by
  -- An overlong TAKETHIS with an empty body, at both readers.
  have hscan : scanBody .lineStart 0 (ascii ".\r\n") = .complete 3 := by decide
  have htakes := takesBody_takethisLine h (ascii ".\r\n")
  have hcut : Cut id (takethisLine filler ++ CRLF ++ ascii ".\r\n")
      [(takethisLine filler ++ CRLF, ascii ".\r\n")] := by
    have hbody : takesBody (id (takethisLine filler ++ CRLF)) (ascii ".\r\n" ++ []) = true := by
      rw [List.append_nil]
      exact htakes
    have hend : scanBody .lineStart 0 (ascii ".\r\n" ++ []) = .complete (ascii ".\r\n").length := by
      rw [List.append_nil]
      exact hscan
    have htransfer := Cut.transfer h hbody hend Cut.nil
    rwa [List.append_nil] at htransfer
  have hlength : 0 + ((takethisLine filler).length + 2) + 3 =
      (takethisLine filler ++ CRLF ++ ascii ".\r\n").length := by
    have hdot : (ascii ".\r\n").length = 3 := rfl
    rw [List.length_append, List.length_append, length_crlf, hdot]
    omega
  have hrun : forEachRequestLineInBatch (takethisLine filler ++ CRLF ++ ascii ".\r\n") 2 =
      ([RequestLine.parse (takethisLine filler ++ CRLF)],
        (takethisLine filler ++ CRLF ++ ascii ".\r\n").length) := by
    have hdata : (takethisLine filler ++ CRLF ++ ascii ".\r\n").drop 0 =
        takethisLine filler ++ CRLF ++ ascii ".\r\n" := by rw [List.drop_zero]
    rw [forEachRequestLineInBatch, forEachRequestLineFrom_succ 1 (Nat.zero_le _) hdata h]
    simp only [htakes, if_true, hscan, hlength]
    rw [forEachRequestLineFrom, detectResponseLineEndFrom_of_le le_rfl, List.drop_length]
    rfl
  have hvisited : (forEachRequestLineInBatch (takethisLine filler ++ CRLF ++ ascii ".\r\n") 2).1 =
      [(takethisLine filler ++ CRLF, ascii ".\r\n")].map fun command =>
        RequestLine.parse command.1 := congrArg Prod.fst hrun
  have hne : takethisLine filler ++ CRLF ++ ascii ".\r\n" ≠ [] := by simp [crlf_eq]
  refine ⟨congrArg Prod.snd hrun, ?_⟩
  rw [readersAgree_iff_of_cut hcut hne (by decide) (by simp) hvisited]
  intro hfit
  have hdot : ascii ".\r\n" ≠ [] := by decide
  exact absurd (hfit _ List.mem_cons_self hdot) (Nat.not_le.mpr hlong)

/-- The slice reader takes the body of a TAKETHIS line one byte too long for the server's line
buffer; the server's reader reads the dot line of that body as a command. -/
theorem overlong_takethis_body_is_a_command :
    let input := takethisLine (List.replicate 4086 120) ++ CRLF ++ ascii ".\r\n"
    input.length ≤ SERVER_READER_CAPACITY ∧
      (forEachRequestLineInBatch input 2).2 = input.length ∧ ¬ ReadersAgree input 2 [] := by
  intro input
  have hverb : CR ∉ ascii "TAKETHIS " ∧ LF ∉ ascii "TAKETHIS " := by decide
  have hx : CR ≠ 120 ∧ LF ≠ 120 := by decide
  have hline : IsLineContent (takethisLine (List.replicate 4086 120)) := by
    refine ⟨?_, ?_⟩
    · rw [takethisLine, List.mem_append, List.mem_replicate, not_or]
      exact ⟨hverb.1, fun hmem => hx.1 hmem.2⟩
    · rw [takethisLine, List.mem_append, List.mem_replicate, not_or]
      exact ⟨hverb.2, fun hmem => hx.2 hmem.2⟩
  have hlength : (takethisLine (List.replicate 4086 120) ++ CRLF).length = 4097 := by
    rw [List.length_append, length_crlf, takethisLine, List.length_append, List.length_replicate]
    rfl
  refine ⟨?_, not_readersAgree_of_overlong hline ?_⟩
  · rw [List.length_append, hlength]
    decide
  · rw [hlength]
    decide

end NntpBench.Server
