import NntpBench.Transfer
import NntpBench.Server.CommandReader

namespace NntpBench.Server

open Protocol Terminator BufferedResponseReceiver

variable {state : TakeThisBodyState} {consumed fin start : Nat} {data : Bytes}

/-- A block: wire lines and the line of one dot. -/
def IsBlock (block : Bytes) : Prop :=
  ∃ lines : List Bytes, (∀ line ∈ lines, WireLine line) ∧ block = wireLines lines ++ DOT_TERMINATOR

theorem isBlock_iff {block : Bytes} :
    IsBlock block ↔ block = DOT_TERMINATOR ∨
      ∃ line rest, WireLine line ∧ IsBlock rest ∧ block = line ++ CR :: LF :: rest := by
  constructor
  · rintro ⟨lines, hlines, rfl⟩
    cases lines with
    | nil => exact .inl rfl
    | cons line lines =>
      rw [List.forall_mem_cons] at hlines
      refine .inr ⟨line, wireLines lines ++ DOT_TERMINATOR, hlines.1, ⟨lines, hlines.2, rfl⟩, ?_⟩
      rw [wireLines_cons, List.append_assoc]
      rfl
  · rintro (rfl | ⟨line, rest, hline, ⟨lines, hlines, rfl⟩, rfl⟩)
    · exact ⟨[], by simp, rfl⟩
    · refine ⟨line :: lines, ?_, ?_⟩
      · rw [List.forall_mem_cons]
        exact ⟨hline, hlines⟩
      · rw [wireLines_cons, List.append_assoc]
        rfl

theorem isBlock_terminator : IsBlock DOT_TERMINATOR := isBlock_iff.mpr (.inl rfl)

/-- What may follow in a state until the block is complete. -/
def Completes : TakeThisBodyState → Bytes → Prop
  | .lineStart, tail => IsBlock tail
  | .lineStartDot, tail => IsBlock (DOT :: tail)
  | .lineStartDotCr, tail => tail = [LF]
  | .line, tail => ∃ line rest, IsLineContent line ∧ IsBlock rest ∧ tail = line ++ CR :: LF :: rest
  | .lineCr, tail => ∃ rest, IsBlock rest ∧ tail = LF :: rest

theorem not_completes_nil (state : TakeThisBodyState) : ¬ Completes state [] := by
  intro h
  cases state with
  | lineStart =>
    rcases isBlock_iff.mp h with h | ⟨line, rest, -, -, h⟩
    · exact absurd h (by decide)
    · simp at h
  | lineStartDot =>
    rcases isBlock_iff.mp h with h | ⟨line, rest, -, -, h⟩
    · exact absurd h (by decide)
    · have hlength := congrArg List.length h
      simp at hlength
      omega
  | lineStartDotCr => simp [Completes] at h
  | line =>
    obtain ⟨line, rest, -, -, h⟩ := h
    simp at h
  | lineCr =>
    obtain ⟨rest, -, h⟩ := h
    simp at h

theorem exists_completes (state : TakeThisBodyState) : ∃ tail, Completes state tail := by
  cases state with
  | lineStart => exact ⟨DOT_TERMINATOR, isBlock_terminator⟩
  | lineStartDot => exact ⟨[CR, LF], isBlock_terminator⟩
  | lineStartDotCr => exact ⟨[LF], rfl⟩
  | line => exact ⟨CR :: LF :: DOT_TERMINATOR, [], _, isLineContent_nil, isBlock_terminator, rfl⟩
  | lineCr => exact ⟨LF :: DOT_TERMINATOR, _, isBlock_terminator, rfl⟩

theorem completes_line_cons (byte : UInt8) (tail : Bytes) :
    Completes .line (byte :: tail) ↔
      if byte = CR then Completes .lineCr tail
      else if byte = LF then False else Completes .line tail := by
  constructor
  · rintro ⟨line, rest, hline, hrest, h⟩
    cases line with
    | nil =>
      obtain ⟨rfl, rfl⟩ := List.cons.inj h
      rw [if_pos rfl]
      exact ⟨rest, hrest, rfl⟩
    | cons first line =>
      obtain ⟨rfl, rfl⟩ := List.cons.inj h
      obtain ⟨hcr, hlf, hline⟩ := isLineContent_cons.mp hline
      rw [if_neg hcr, if_neg hlf]
      exact ⟨line, rest, hline, hrest, rfl⟩
  · intro h
    split_ifs at h with hcr hlf
    · obtain ⟨rest, hrest, rfl⟩ := h
      exact ⟨[], rest, isLineContent_nil, hrest, by rw [hcr]; rfl⟩
    · obtain ⟨line, rest, hline, hrest, rfl⟩ := h
      exact ⟨byte :: line, rest, isLineContent_cons.mpr ⟨hcr, hlf, hline⟩, hrest, rfl⟩

theorem isBlock_cons_of_ne_dot {byte : UInt8} (hdot : byte ≠ DOT) (tail : Bytes) :
    IsBlock (byte :: tail) ↔ Completes .line (byte :: tail) := by
  rw [isBlock_iff]
  constructor
  · rintro (h | ⟨line, rest, hline, hrest, h⟩)
    · rw [dot_terminator_eq] at h
      exact absurd (List.cons.inj h).1 hdot
    · exact ⟨line, rest, hline.content, hrest, h⟩
  · rintro ⟨line, rest, hline, hrest, h⟩
    refine .inr ⟨line, rest, ⟨hline, ?_⟩, hrest, h⟩
    rintro ⟨after, rfl⟩
    exact absurd (List.cons.inj h).1 hdot

theorem isBlock_dot_cons (byte : UInt8) (tail : Bytes) :
    IsBlock (DOT :: byte :: tail) ↔
      byte = DOT ∧ Completes .line tail ∨ byte = CR ∧ tail = [LF] := by
  -- Behind a dot at the start of a line stands another one, or the block ends.
  rw [isBlock_iff]
  constructor
  · rintro (h | ⟨line, rest, hline, hrest, h⟩)
    · rw [dot_terminator_eq] at h
      simp only [List.cons.injEq, true_and] at h
      exact .inr h
    · cases line with
      | nil => exact absurd (List.cons.inj h).1 (by decide)
      | cons first line =>
        obtain ⟨rfl, htail⟩ := List.cons.inj h
        obtain ⟨after, hafter⟩ := hline.stuffed ⟨line, rfl⟩
        have hline' : line = DOT :: after := (List.cons.inj hafter).2.symm
        subst hline'
        obtain ⟨rfl, rfl⟩ := List.cons.inj htail
        have hcontent := (isLineContent_cons.mp (isLineContent_cons.mp hline.content).2.2).2.2
        exact .inl ⟨rfl, after, rest, hcontent, hrest, rfl⟩
  · rintro (⟨rfl, line, rest, hline, hrest, rfl⟩ | ⟨rfl, rfl⟩)
    · refine .inr ⟨DOT :: DOT :: line, rest, ⟨?_, fun _ => ⟨line, rfl⟩⟩, hrest, rfl⟩
      simp only [isLineContent_cons, hline, and_true]
      decide
    · exact .inl rfl

theorem completes_cons (state : TakeThisBodyState) (byte : UInt8) (tail : Bytes) :
    Completes state (byte :: tail) ↔
      match state.step byte with
      | .next next => Completes next tail
      | .complete => tail = []
      | .invalid _ => False := by
  cases state with
  | lineStart =>
    by_cases hdot : byte = DOT
    · subst hdot
      rfl
    · have hline := (isBlock_cons_of_ne_dot hdot tail).trans (completes_line_cons byte tail)
      show IsBlock (byte :: tail) ↔ _
      rw [hline]
      simp only [TakeThisBodyState.step, hdot, if_false]
      split_ifs <;> rfl
  | lineStartDot =>
    show IsBlock (DOT :: byte :: tail) ↔ _
    rw [isBlock_dot_cons]
    have hne : DOT ≠ CR := by decide
    simp only [TakeThisBodyState.step]
    split_ifs with hdot hcr <;> simp_all [Completes]
  | lineStartDotCr =>
    simp only [Completes, TakeThisBodyState.step, List.cons.injEq]
    split_ifs with hlf <;> simp [hlf]
  | line =>
    rw [completes_line_cons]
    simp only [TakeThisBodyState.step]
    split_ifs <;> rfl
  | lineCr =>
    simp only [TakeThisBodyState.step, Completes, List.cons.injEq]
    split_ifs with hlf <;> simp [hlf]

theorem scanBody_complete_iff :
    scanBody state consumed data = .complete fin ↔
      ∃ block rest, data = block ++ rest ∧ Completes state block ∧
        fin = consumed + block.length := by
  induction data generalizing state consumed with
  | nil =>
    simp only [scanBody, reduceCtorEq, false_iff]
    rintro ⟨block, rest, h, hblock, -⟩
    rw [(List.append_eq_nil_iff.mp h.symm).1] at hblock
    exact not_completes_nil state hblock
  | cons byte data ih =>
    -- what completes the block is not empty, so it starts with the byte that is read
    have hsplit : (∃ block rest, byte :: data = block ++ rest ∧ Completes state block ∧
          fin = consumed + block.length) ↔
        ∃ block rest, data = block ++ rest ∧ Completes state (byte :: block) ∧
          fin = consumed + 1 + block.length := by
      constructor
      · rintro ⟨block, rest, h, hblock, hfin⟩
        cases block with
        | nil => exact absurd hblock (not_completes_nil state)
        | cons first block =>
          obtain ⟨rfl, rfl⟩ := List.cons.inj h
          refine ⟨block, rest, rfl, hblock, ?_⟩
          rw [hfin, List.length_cons]
          omega
      · rintro ⟨block, rest, rfl, hblock, hfin⟩
        refine ⟨byte :: block, rest, rfl, hblock, ?_⟩
        rw [hfin, List.length_cons]
        omega
    rw [hsplit, scanBody]
    simp only [completes_cons]
    cases hstep : state.step byte with
    | next next => exact ih
    | complete =>
      simp only [BodyProgress.complete.injEq]
      constructor
      · rintro rfl
        exact ⟨[], data, rfl, rfl, rfl⟩
      · rintro ⟨block, rest, -, rfl, rfl⟩
        rfl
    | invalid error => simp

theorem completes_append_of_incomplete {next : TakeThisBodyState}
    (h : scanBody state consumed data = .incomplete next) (tail : Bytes) :
    Completes state (data ++ tail) ↔ Completes next tail := by
  induction data generalizing state consumed with
  | nil =>
    rw [scanBody, BodyProgress.incomplete.injEq] at h
    rw [h, List.nil_append]
  | cons byte data ih =>
    rw [scanBody] at h
    rw [List.cons_append, completes_cons]
    cases hstep : state.step byte with
    | next middle =>
      rw [hstep] at h
      exact ih h
    | complete => simp [hstep] at h
    | invalid error => simp [hstep] at h

theorem not_completes_of_invalid {error : CommandReadError}
    (h : scanBody state consumed data = .invalid error fin) {block more rest : Bytes}
    (hblock : data ++ more = block ++ rest) : ¬ Completes state block := by
  induction data generalizing state consumed block with
  | nil => simp [scanBody] at h
  | cons byte data ih =>
    rw [scanBody] at h
    cases block with
    | nil => exact not_completes_nil state
    | cons first block =>
      obtain ⟨rfl, htail⟩ := List.cons.inj hblock
      rw [completes_cons]
      cases hstep : state.step byte with
      | next next =>
        rw [hstep] at h
        exact ih h htail
      | complete => simp [hstep] at h
      | invalid error => exact id

/-- The block that `data` has at `start` ends at `fin`. -/
def BlockAt (data : Bytes) (start fin : Nat) : Prop :=
  start ≤ fin ∧ fin ≤ data.length ∧ IsBlock (data.extract start fin)

theorem blockAt_iff (hstart : start ≤ data.length) :
    BlockAt data start fin ↔
      ∃ block rest, data.drop start = block ++ rest ∧ IsBlock block ∧
        fin = start + block.length := by
  constructor
  · rintro ⟨hle, hfin, hblock⟩
    refine ⟨_, data.drop fin, ?_, hblock, ?_⟩
    · have hdrop : data.drop fin = (data.drop start).drop (fin - start) := by
        rw [List.drop_drop, Nat.add_sub_cancel' hle]
      rw [List.extract_eq_take_drop, hdrop, List.take_append_drop]
    · rw [List.extract_eq_take_drop, List.length_take, List.length_drop]
      omega
  · rintro ⟨block, rest, hdrop, hblock, rfl⟩
    have hlength := congrArg List.length hdrop
    rw [List.length_drop, List.length_append] at hlength
    refine ⟨by omega, by omega, ?_⟩
    rw [List.extract_eq_take_drop, hdrop, Nat.add_sub_cancel_left, List.take_left]
    exact hblock

theorem scanDotTerminatedBody_complete_iff (hstart : start ≤ data.length) :
    scanDotTerminatedBody data start = .complete fin ↔ BlockAt data start fin := by
  have hscan : scanDotTerminatedBody data start = .complete fin ↔
      ∃ consumed, scanBody .lineStart 0 (data.drop start) = .complete consumed ∧
        fin = start + consumed := by
    rw [scanDotTerminatedBody_eq hstart]
    cases scanBody .lineStart 0 (data.drop start) <;> simp [eq_comm]
  rw [hscan, blockAt_iff hstart]
  simp only [scanBody_complete_iff, Nat.zero_add]
  constructor
  · rintro ⟨consumed, ⟨block, rest, hdrop, hblock, rfl⟩, hfin⟩
    exact ⟨block, rest, hdrop, hblock, hfin⟩
  · rintro ⟨block, rest, hdrop, hblock, hfin⟩
    exact ⟨block.length, ⟨block, rest, hdrop, hblock, rfl⟩, hfin⟩

theorem scanDotTerminatedBody_invalid_iff (hstart : start ≤ data.length) :
    scanDotTerminatedBody data start = .invalid ↔
      ∀ more fin, ¬ BlockAt (data ++ more) start fin := by
  have hmore : ∀ more : Bytes, start ≤ (data ++ more).length := by
    intro more
    rw [List.length_append]
    omega
  constructor
  · intro h more fin hblock
    obtain ⟨block, rest, hdrop, hblock, -⟩ := (blockAt_iff (hmore more)).mp hblock
    rw [List.drop_append_of_le_length hstart] at hdrop
    rw [scanDotTerminatedBody_eq hstart] at h
    cases hscan : scanBody .lineStart 0 (data.drop start) with
    | complete consumed => simp [hscan] at h
    | invalid error consumed => exact not_completes_of_invalid hscan hdrop hblock
    | incomplete next => simp [hscan] at h
  · intro h
    cases hscan : scanDotTerminatedBody data start with
    | complete fin =>
      apply absurd ((scanDotTerminatedBody_complete_iff hstart).mp hscan)
      simpa using h [] fin
    | invalid => rfl
    | incomplete =>
      rw [scanDotTerminatedBody_eq hstart] at hscan
      cases hbody : scanBody .lineStart 0 (data.drop start) with
      | complete consumed => simp [hbody] at hscan
      | invalid error consumed => simp [hbody] at hscan
      | incomplete next =>
        -- the open body is completed by what completes the state it ends in
        obtain ⟨tail, htail⟩ := exists_completes next
        have hblock : IsBlock (data.drop start ++ tail) :=
          (completes_append_of_incomplete hbody tail).mpr htail
        apply absurd _ (h tail (start + (data.drop start ++ tail).length))
        rw [blockAt_iff (hmore tail)]
        refine ⟨_, [], ?_, hblock, rfl⟩
        rw [List.append_nil, List.drop_append_of_le_length hstart]

theorem findDotTerminatedBlockEnd_of_blockAt
    (h : BlockAt data start fin) : findDotTerminatedBlockEnd data start = some fin := by
  have hstart : start ≤ data.length := h.1.trans h.2.1
  obtain ⟨block, rest, hdrop, ⟨lines, hlines, rfl⟩, rfl⟩ := (blockAt_iff hstart).mp h
  have hne : wireLines lines ++ DOT_TERMINATOR ++ rest ≠ [] := by simp [dot_terminator_eq]
  simp only [findDotTerminatedBlockEnd, findDotTerminatedBlock, dotTerminatedBlocks,
    DotTerminatedBlocks.next, getFrom_of_le hstart, hdrop, Option.bind_some, if_neg hne,
    bounds_wireLines hlines, Option.map_some, List.length_append]

/-- The progress as it is seen `count` bytes earlier. -/
def BodyProgress.advance (count : Nat) : BodyProgress → BodyProgress
  | .complete consumed => .complete (consumed + count)
  | .invalid error consumed => .invalid error (consumed + count)
  | .incomplete state => .incomplete state

theorem scanBody_add (state : TakeThisBodyState) (consumed count : Nat) (data : Bytes) :
    scanBody state (consumed + count) data = (scanBody state consumed data).advance count := by
  induction data generalizing state consumed with
  | nil => rfl
  | cons byte data ih =>
    have hcount : consumed + count + 1 = consumed + 1 + count := by omega
    rw [scanBody, scanBody, hcount]
    cases state.step byte with
    | next next => exact ih next (consumed + 1)
    | complete => rfl
    | invalid error => rfl

theorem scanBody_append (state : TakeThisBodyState) (consumed : Nat) (left right : Bytes) :
    scanBody state consumed (left ++ right) =
      match scanBody state consumed left with
      | .incomplete next => scanBody next (consumed + left.length) right
      | progress => progress := by
  induction left generalizing state consumed with
  | nil => rfl
  | cons byte left ih =>
    have hlength : consumed + (byte :: left).length = consumed + 1 + left.length := by
      rw [List.length_cons]
      omega
    rw [List.cons_append, scanBody, scanBody, hlength]
    cases state.step byte with
    | next next => exact ih next (consumed + 1)
    | complete => rfl
    | invalid error => rfl

/-- What the reader returns for a stream that the scan has been through. -/
def BodyProgress.verdict : BodyProgress → Except CommandReadError Unit
  | .complete _ => .ok ()
  | .invalid error _ => .error error
  | .incomplete _ => .error .truncatedBody

/-- How much of a stream of `total` bytes the reader has taken. -/
def BodyProgress.taken (total : Nat) : BodyProgress → Nat
  | .complete consumed => consumed
  | .invalid _ consumed => consumed
  | .incomplete _ => total

theorem verdict_advance (progress : BodyProgress) (count : Nat) :
    (progress.advance count).verdict = progress.verdict := by
  cases progress <;> rfl

theorem taken_advance (progress : BodyProgress) (total count : Nat) :
    (progress.advance count).taken (total + count) = progress.taken total + count := by
  cases progress <;> rfl

theorem taken_scanBody_le (state : TakeThisBodyState) (consumed : Nat) (data : Bytes) :
    (scanBody state consumed data).taken (consumed + data.length) ≤ consumed + data.length := by
  induction data generalizing state consumed with
  | nil => exact Nat.le_refl _
  | cons byte data ih =>
    have hlength : consumed + (byte :: data).length = consumed + 1 + data.length := by
      rw [List.length_cons]
      omega
    rw [scanBody, hlength]
    cases state.step byte with
    | next next => exact ih next (consumed + 1)
    | complete => exact Nat.le_add_right _ _
    | invalid error => exact Nat.le_add_right _ _

theorem BufReader.Live.of_fillBuf {reader filled : BufReader}
    {result : Except CommandReadError Unit}
    (h : reader.Live) (hfill : reader.fillBuf = (result, filled)) :
    result = .ok () ∧ filled.Live ∧ (filled.buffer = [] → filled.pending = []) := by
  obtain ⟨_, hok, hlive, -, hend⟩ := h.fillBuf
  rw [hfill] at hok
  obtain ⟨rfl, rfl⟩ := Prod.mk.inj hok
  exact ⟨rfl, hlive, hend⟩

/-- **The reader of a stream says what the scan of all its bytes says**, however the stream is cut.
-/
theorem readDotTerminatedBody_eq_scan {reader : BufReader} (h : reader.Live)
    (state : TakeThisBodyState) :
    (readDotTerminatedBody reader state).1 = (scanBody state 0 reader.pending).verdict ∧
      (readDotTerminatedBody reader state).2.pending =
        reader.pending.drop ((scanBody state 0 reader.pending).taken reader.pending.length) := by
  fun_induction readDotTerminatedBody reader state with
  | case1 reader state error filled hfill =>
    obtain ⟨hok, -⟩ := h.of_fillBuf hfill
    cases hok
  | case2 reader state _ filled hfill hempty =>
    obtain ⟨-, -, hend⟩ := h.of_fillBuf hfill
    rw [← BufReader.pending_of_fillBuf hfill, hend hempty]
    exact ⟨rfl, rfl⟩
  | case3 reader state _ filled hfill hne consumed hscan =>
    have hle := taken_scanBody_le state 0 filled.buffer
    have hall : scanBody state 0 filled.pending = .complete consumed := by
      rw [BufReader.pending, scanBody_append, hscan]
    rw [hscan, Nat.zero_add] at hle
    rw [← BufReader.pending_of_fillBuf hfill, hall]
    exact ⟨rfl, filled.pending_consume hle⟩
  | case4 reader state _ filled hfill hne error consumed hscan =>
    have hle := taken_scanBody_le state 0 filled.buffer
    have hall : scanBody state 0 filled.pending = .invalid error consumed := by
      rw [BufReader.pending, scanBody_append, hscan]
    rw [hscan, Nat.zero_add] at hle
    rw [← BufReader.pending_of_fillBuf hfill, hall]
    exact ⟨rfl, filled.pending_consume hle⟩
  | case5 reader state _ filled hfill hne next hscan ih =>
    -- the whole buffer belongs to the open body: the scan goes on behind it
    obtain ⟨-, hlive, -⟩ := h.of_fillBuf hfill
    have hrest : (filled.consume filled.buffer.length).pending = unread filled.socket := by
      rw [filled.pending_consume (Nat.le_refl _), BufReader.pending, List.drop_left]
    have hall : scanBody state 0 filled.pending =
        (scanBody next 0 (unread filled.socket)).advance filled.buffer.length := by
      rw [BufReader.pending, scanBody_append, hscan]
      exact scanBody_add next 0 filled.buffer.length (unread filled.socket)
    have htotal : filled.pending.length = (unread filled.socket).length + filled.buffer.length := by
      rw [BufReader.pending, List.length_append, Nat.add_comm]
    obtain ⟨hverdict, hpending⟩ := ih (hlive.consume _)
    rw [hrest] at hverdict hpending
    rw [← BufReader.pending_of_fillBuf hfill, hall, verdict_advance, htotal, taken_advance]
    refine ⟨hverdict, ?_⟩
    rw [hpending, BufReader.pending, Nat.add_comm, List.drop_length_add_append]

theorem kind_of_invalid {error : CommandReadError}
    (h : scanBody state consumed data = .invalid error fin) :
    error.kind = .invalidData := by
  induction data generalizing state consumed with
  | nil => simp [scanBody] at h
  | cons byte data ih =>
    rw [scanBody] at h
    cases hstep : state.step byte with
    | next next =>
      rw [hstep] at h
      exact ih h
    | complete => simp [hstep] at h
    | invalid reason =>
      simp only [hstep, BodyProgress.invalid.injEq] at h
      rw [← h.1]
      cases state <;> simp only [TakeThisBodyState.step] at hstep <;> split_ifs at hstep <;>
        rw [← BodyStep.invalid.inj hstep] <;> rfl

/-- **The scan of a slice is complete exactly at the end of a block, and invalid exactly if no more
bytes can make one; the reader of a stream and the search for the end of a block agree with it.** -/
theorem body_scanners_follow_grammar (data : Bytes) (start : Nat) (hstart : start ≤ data.length) :
    (∀ fin, scanDotTerminatedBody data start = .complete fin ↔ BlockAt data start fin) ∧
      (∀ fin fin', BlockAt data start fin → BlockAt data start fin' → fin = fin') ∧
      (scanDotTerminatedBody data start = .invalid ↔
        ∀ more fin, ¬ BlockAt (data ++ more) start fin) ∧
      (∀ reader : BufReader, reader.Live → reader.pending = data.drop start →
        (∀ fin, scanDotTerminatedBody data start = .complete fin →
          (readDotTerminatedBody reader .lineStart).2.pending = reader.pending.drop (fin - start)) ∧
        ((readDotTerminatedBody reader .lineStart).1 = .ok () ↔
          ∃ fin, scanDotTerminatedBody data start = .complete fin) ∧
        ((∃ error, (readDotTerminatedBody reader .lineStart).1 = .error error ∧
          error.kind = .invalidData) ↔ scanDotTerminatedBody data start = .invalid) ∧
        ((∃ error, (readDotTerminatedBody reader .lineStart).1 = .error error ∧
          error.kind = .unexpectedEof) ↔ scanDotTerminatedBody data start = .incomplete)) ∧
      ∀ fin, scanDotTerminatedBody data start = .complete fin →
        (findDotTerminatedBlock data start).map DotTerminatedBlock.blockEnd = some fin := by
  refine ⟨fun fin => scanDotTerminatedBody_complete_iff hstart, ?_,
    scanDotTerminatedBody_invalid_iff hstart, ?_, ?_⟩
  · intro fin fin' h h'
    rw [← scanDotTerminatedBody_complete_iff hstart] at h h'
    rw [h, TransferBodyScan.complete.injEq] at h'
    exact h'
  · intro reader hlive hpending
    obtain ⟨hverdict, htaken⟩ := readDotTerminatedBody_eq_scan hlive .lineStart
    rw [hpending] at hverdict htaken
    rw [scanDotTerminatedBody_eq hstart, hverdict, htaken, hpending]
    cases hscan : scanBody .lineStart 0 (data.drop start) with
    | complete consumed =>
      refine ⟨?_, ?_, ?_, ?_⟩
      · intro fin hfin
        rw [← TransferBodyScan.complete.inj hfin, Nat.add_sub_cancel_left]
        rfl
      · simp [BodyProgress.verdict]
      · simp [BodyProgress.verdict]
      · simp [BodyProgress.verdict]
    | invalid error consumed =>
      have hkind := kind_of_invalid hscan
      simp [BodyProgress.verdict, hkind]
    | incomplete next => simp [BodyProgress.verdict, CommandReadError.kind]
  · intro fin h
    exact findDotTerminatedBlockEnd_of_blockAt ((scanDotTerminatedBody_complete_iff hstart).mp h)

/-- A stuffed line and the dot line, with a command behind them, read in two pieces. -/
theorem stuffed_block_is_read :
    BlockAt (ascii "..a\r\n.\r\nQUIT\r\n") 0 8 ∧
      (readDotTerminatedBody (.new [ascii "..a\r\n.", ascii "\r\nQUIT\r\n"]) .lineStart).2.pending =
        ascii "QUIT\r\n" := by
  have hstart : 0 ≤ (ascii "..a\r\n.\r\nQUIT\r\n").length := Nat.zero_le _
  have hscan : scanDotTerminatedBody (ascii "..a\r\n.\r\nQUIT\r\n") 0 = .complete 8 := by decide
  obtain ⟨hcomplete, -, -, hreader, -⟩ := body_scanners_follow_grammar _ 0 hstart
  have hlive : (BufReader.new [ascii "..a\r\n.", ascii "\r\nQUIT\r\n"]).Live := .new (by decide)
  refine ⟨(hcomplete 8).mp hscan, ?_⟩
  rw [(hreader _ hlive (by decide)).1 8 hscan]
  decide

end NntpBench.Server
